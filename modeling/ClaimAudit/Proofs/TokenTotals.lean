import ClaimAudit.Proofs.ReportRoundTrip
import ClaimAudit.Proofs.Responses
import ClaimAudit.Settings.Choice

/-! The totals of token counts.

A backend states how many tokens it read and wrote. Each count of an accepted reply fits into a word
of 64 bits, and nothing more is asked of it: any two words are the counts of some accepted reply.
Their sum therefore may need one bit more than a word has, and the total starts again at zero.
-/

set_option autoImplicit false

namespace ClaimAudit

namespace TokenUsage

structure InWords (u : TokenUsage) : Prop where
  input : u.input < 0x10000000000000000
  output : u.output < 0x10000000000000000

variable {u : TokenUsage}

theorem total_eq_mod (u : TokenUsage) : u.total = (u.input + u.output) % 0x10000000000000000 := by
  rw [total, UInt64.toNat_add, UInt64.toNat_ofNat', UInt64.toNat_ofNat', ← Nat.add_mod]

theorem InWords.survive (words : u.InWords) :
    ∀ n ∈ [Json.Number.whole u.input, .whole u.output], n.Survives :=
  List.forall_mem_cons.mpr ⟨Json.survives_whole words.input,
    List.forall_mem_singleton.mpr (Json.survives_whole words.output)⟩

theorem InWords.total_eq (words : u.InWords) : u.total =
    if u.input + u.output < 0x10000000000000000 then u.input + u.output
    else u.input + u.output - 0x10000000000000000 := by
  have ⟨first, second⟩ := words
  rw [total_eq_mod]
  split <;> omega

end TokenUsage

namespace Json.Decode

variable {source : Source} {tree : Tree} {f : Fields} {name : String} {n : Nat}

theorem lt_of_word64 (read : word64 source tree = some n) : n < 0x10000000000000000 := by
  rw [word64] at read
  unfold below at read
  split at read
  · split at read
    · rename_i small
      exact Option.some.inj read ▸ small
    · cases read
  · cases read

theorem Fields.lt_of_required (read : f.required name word64 = some n) :
    n < 0x10000000000000000 := by
  obtain ⟨_, _, read⟩ := Option.bind_eq_some_iff.mp read
  exact lt_of_word64 read

theorem Fields.lt_of_orElse (read : f.orElse name 0 word64 = some n) :
    n < 0x10000000000000000 := by
  rw [orElse] at read
  split at read
  · cases read
    decide
  · exact lt_of_word64 read

theorem of_optional {α : Type} {decode : Decoder α} {a : α}
    (read : optional decode source tree = some (some a)) :
    decode source tree = some a := by
  unfold optional at read
  split at read
  · cases read
  · obtain ⟨b, read, same⟩ := Option.map_eq_some_iff.mp read
    exact Option.some.inj same ▸ read

end Json.Decode

namespace Backend

open ClaimAudit.Json.Decode (Restores)

namespace Wire

theorem restores_content (role : Role) (content : String) :
    Restores decodeContent (fun content => messageJson ⟨role, content⟩) 1 content := by
  intro source deep
  have distinct : (["role", "content"] : List String).Nodup := by decide
  have read := Json.Decode.fields_object ["role", "content"]
    [("role", .string role.name), ("content", .string content)] distinct deep
  simp only [decodeContent, messageJson, read, bind, Option.bind_some]
  rw [(Restores.string role.name).required (Nat.zero_le _) (by decide) rfl,
    (Restores.string content).orElse (Nat.zero_le _) "" (by decide) rfl]
  rfl

end Wire

variable {σ : Type} {transport : Http.Transport σ} {clock : StateM σ Nat} {access : Access}
  {request : CompletionRequest} {s t : σ} {c : Completion} {u : TokenUsage}

namespace Ollama

theorem inWords_of_decode {id : String} {source : Json.Source} {tree : Json.Tree}
    (read : decodeCompletion id source tree = some c) : c.usage.InWords := by
  simp only [decodeCompletion, Option.bind_eq_bind, Option.bind_eq_some_iff] at read
  obtain ⟨_, _, _, _, _, _, _, _, _, input, _, output, made⟩ := read
  cases made
  exact ⟨Json.Decode.Fields.lt_of_orElse input, Json.Decode.Fields.lt_of_orElse output⟩

def replyJson (model content : String) (u : TokenUsage) : Json.Value := .object
  [("model", .string model), ("message", Wire.messageJson ⟨.assistant, content⟩),
   ("prompt_eval_count", .ofNat u.input), ("eval_count", .ofNat u.output)]

theorem restores_reply (words : u.InWords) (id model content : String) :
    Restores (decodeCompletion id) (fun c => replyJson c.model c.content c.usage) 2
      ⟨id, model, content, some .stop, u⟩ := by
  intro source deep
  have distinct :
      (["model", "message", "prompt_eval_count", "eval_count"] : List String).Nodup := by decide
  have entered : 0 < source.levels := by omega
  have inner : 1 ≤ source.levels - 1 := by omega
  have read := Json.Decode.fields_object
    ["model", "message", "done_reason", "prompt_eval_count", "eval_count"]
    [("model", .string model), ("message", Wire.messageJson ⟨.assistant, content⟩),
      ("prompt_eval_count", .ofNat u.input), ("eval_count", .ofNat u.output)] distinct entered
  have message := (Wire.restores_content .assistant content).optional Json.Tree.noConfusion
  simp only [decodeCompletion, replyJson, read, bind, Option.bind_some]
  rw [message.orElse inner none (by decide) rfl,
    (Restores.string model).required (Nat.zero_le _) (by decide) rfl,
    (Restores.word64 words.input).orElse (Nat.zero_le _) 0 (by decide) rfl,
    (Restores.word64 words.output).orElse (Nat.zero_le _) 0 (by decide) rfl]
  rfl

theorem inWords_of_complete
    (ran : ((client transport clock access).complete request).run s = (.ok c, t)) :
    c.usage.InWords := by
  obtain ⟨_, v, _, posted⟩ := Action.ok_of_run_bind ran
  rw [run_post_eq] at posted
  split at posted
  · cases posted
  · have answers := Wire.outcome_eq_ok_iff.mp (congrArg Prod.fst posted)
    obtain ⟨_, read⟩ := answers.decoded
    exact inWords_of_decode read

theorem run_complete {response : Http.Response}
    (answers : Wire.Answers (decodeCompletion s!"ollama-{(clock s).1}") response c) :
    ((client (fun _ => pure (.ok response)) clock access).complete request).run s =
      (.ok c, (clock s).2) := by
  simp only [client, Action.run_bind, Action.run_liftM, run_post_eq]
  exact Prod.ext (Wire.outcome_eq_ok_iff.mpr answers) rfl

end Ollama

namespace OpenAI

theorem inWords_of_decodeUsage {source : Json.Source} {tree : Json.Tree}
    (read : decodeUsage source tree = some u) : u.InWords := by
  simp only [decodeUsage, Option.bind_eq_bind, Option.bind_eq_some_iff] at read
  obtain ⟨_, _, _, input, _, output, made⟩ := read
  cases made
  exact ⟨Json.Decode.Fields.lt_of_required input, Json.Decode.Fields.lt_of_orElse output⟩

theorem inWords_of_completion {source : Json.Source} {tree : Json.Tree} {reply : Reply}
    (read : Reply.decode source tree = some reply) (made : reply.completion = .ok c) :
    c.usage.InWords := by
  simp only [Reply.decode, Option.bind_eq_bind, Option.bind_eq_some_iff] at read
  obtain ⟨f, _, id, _, model, _, choices, _, usage, counts, same⟩ := read
  cases same
  have words : (usage.getD {}).InWords := by
    cases usage with
    | none => exact ⟨by decide, by decide⟩
    | some u =>
      rw [Json.Decode.Fields.orElse] at counts
      split at counts
      · cases counts
      · exact inWords_of_decodeUsage (Json.Decode.of_optional counts)
  cases choices with
  | nil => cases made
  | cons choice others =>
    cases made
    exact words

def usageJson (u : TokenUsage) : Json.Value := .object
  [("prompt_tokens", .ofNat u.input), ("completion_tokens", .ofNat u.output)]

def Choice.json (choice : Choice) : Json.Value := .object
  [("message", Wire.messageJson ⟨.assistant, choice.content⟩),
   ("finish_reason", .ofOption .string choice.finishReason)]

def Reply.json (r : Reply) : Json.Value := .object
  [("id", .string r.id), ("model", .string r.model), ("choices", .array (r.choices.map Choice.json)),
   ("usage", .ofOption usageJson r.usage)]

theorem restores_usage (words : u.InWords) : Restores decodeUsage usageJson 1 u := by
  intro source deep
  have distinct : (["prompt_tokens", "completion_tokens"] : List String).Nodup := by decide
  have read := Json.Decode.fields_object ["prompt_tokens", "completion_tokens"]
    [("prompt_tokens", .ofNat u.input), ("completion_tokens", .ofNat u.output)] distinct deep
  simp only [decodeUsage, usageJson, read, bind, Option.bind_some]
  rw [(Restores.word64 words.input).required (Nat.zero_le _) (by decide) rfl,
    (Restores.word64 words.output).orElse (Nat.zero_le _) 0 (by decide) rfl]
  rfl

theorem restores_choice (content : String) :
    Restores Choice.decode Choice.json 2 ⟨content, none⟩ := by
  intro source deep
  have distinct : (["message", "finish_reason"] : List String).Nodup := by decide
  have entered : 0 < source.levels := by omega
  have inner : 1 ≤ source.levels - 1 := by omega
  have read := Json.Decode.fields_object ["message", "finish_reason"]
    [("message", Wire.messageJson ⟨.assistant, content⟩), ("finish_reason", .null)] distinct entered
  simp only [Choice.decode, Choice.json, Json.Value.ofOption, read, bind, Option.bind_some]
  rw [(Wire.restores_content .assistant content).required inner (by decide) rfl]
  rfl

def counted (id model content : String) (u : TokenUsage) : Reply :=
  ⟨id, model, [⟨content, none⟩], some u⟩

theorem restores_reply (words : u.InWords) (id model content : String) :
    Restores Reply.decode Reply.json 4 (counted id model content u) := by
  intro source deep
  have distinct : (["id", "model", "choices", "usage"] : List String).Nodup := by decide
  have entered : 0 < source.levels := by omega
  have one : 1 ≤ source.levels - 1 := by omega
  have three : 3 ≤ source.levels - 1 := by omega
  have read := Json.Decode.fields_object ["id", "model", "choices", "usage"]
    [("id", .string id), ("model", .string model),
      ("choices", .array ([⟨content, none⟩].map Choice.json)), ("usage", usageJson u)]
    distinct entered
  have choices : Restores (Json.Decode.list Choice.decode) _ 3 [⟨content, none⟩] :=
    Restores.list (List.forall_mem_singleton.mpr (restores_choice content))
  have usage := (restores_usage words).optional Json.Tree.noConfusion
  simp only [Reply.decode, Reply.json, counted, Json.Value.ofOption, read, bind, Option.bind_some]
  rw [(Restores.string id).required (Nat.zero_le _) (by decide) rfl,
    (Restores.string model).required (Nat.zero_le _) (by decide) rfl,
    choices.required three (by decide) rfl, usage.orElse one none (by decide) rfl]
  rfl

theorem inWords_of_complete
    (ran : ((client transport access).complete request).run s = (.ok c, t)) :
    c.usage.InWords := by
  obtain ⟨reply, v, posted, made⟩ := Action.ok_of_run_bind ran
  rw [Action.run_liftExcept] at made
  rw [run_post_eq] at posted
  split at posted
  · cases posted
  · have answers := Wire.outcome_eq_ok_iff.mp (congrArg Prod.fst posted)
    obtain ⟨_, read⟩ := answers.decoded
    exact inWords_of_completion read (congrArg Prod.fst made)

theorem run_complete {response : Http.Response} {reply : Reply}
    (answers : Wire.Answers Reply.decode response reply) (made : reply.completion = .ok c) :
    ((client (fun _ => pure (.ok response)) access).complete request).run s = (.ok c, s) := by
  have posted : (post (fun _ => pure (.ok response)) access Reply.decode "/v1/chat/completions"
      (completionBody access request)).run s = (.ok reply, s) :=
    run_post_eq.trans (Prod.ext (Wire.outcome_eq_ok_iff.mpr answers) rfl)
  simp only [client, Action.run_bind, posted]
  rw [Action.run_liftExcept, made]

end OpenAI

def replyJson (provider : Provider) (id model content : String) (u : TokenUsage) : Json.Value :=
  match provider with
  | .ollama => Ollama.replyJson model content u
  | .openai => (OpenAI.counted id model content u).json

/-- Each count of an accepted reply is a word of 64 bits, and any two words are the counts of some
accepted reply. The total is their sum if this is a word itself; otherwise it has started again at
zero. -/
theorem token_totals_of_accepted_replies (provider : Provider) (access : Access)
    (request : CompletionRequest) :
    (∀ (σ : Type) (transport : Http.Transport σ) (clock : StateM σ Nat) (s t : σ) (c : Completion),
      ((client transport clock provider access).complete request).run s = (.ok c, t) →
      c.usage.InWords ∧ c.usage.total =
        if c.usage.input + c.usage.output < 0x10000000000000000 then c.usage.input + c.usage.output
        else c.usage.input + c.usage.output - 0x10000000000000000) ∧
    ∀ (id model content : String) (u : TokenUsage), u.InWords →
      ∀ (σ : Type) (clock : StateM σ Nat) (s : σ), ∃ t c,
        ((client (fun _ => pure (.ok (Wire.carrying (replyJson provider id model content u).render)))
          clock provider access).complete request).run s = (.ok c, t) ∧
        c.model = model ∧ c.content = content ∧ c.usage = u := by
  refine ⟨fun σ transport clock s t c ran => ?_, fun id model content u words σ clock s => ?_⟩
  · have words : c.usage.InWords := by
      cases provider with
      | ollama => exact Ollama.inWords_of_complete ran
      | openai => exact OpenAI.inWords_of_complete ran
    exact ⟨words, words.total_eq⟩
  · cases provider with
    | ollama =>
      have restores := Ollama.restores_reply words s!"ollama-{(clock s).1}" model content
      have read := restores.text (by decide) words.survive
      exact ⟨_, _, Ollama.run_complete (Wire.answers_carrying read), rfl, rfl, rfl⟩
    | openai =>
      have read := (OpenAI.restores_reply words id model content).text (by decide) words.survive
      exact ⟨_, _, OpenAI.run_complete (Wire.answers_carrying read) rfl, rfl, rfl, rfl⟩

/-- Each count is half of what a word holds. -/
theorem token_totals_of_accepted_replies_halves :
    let access : Access := { defaultModel := "m" }
    let usage : TokenUsage := ⟨9223372036854775808, 9223372036854775808⟩
    usage.InWords ∧ ∃ c,
      (((client (fun _ => pure (.ok (Wire.carrying (replyJson .openai "c" "m" "Yes." usage).render)))
        (pure 0) .openai access).complete {}).run ()).1 = .ok c ∧ c.usage = usage ∧
        c.usage.total = 0 := by
  intro access usage
  have words : usage.InWords := ⟨by decide, by decide⟩
  obtain ⟨accepted, arises⟩ := token_totals_of_accepted_replies .openai access {}
  obtain ⟨t, c, ran, _, _, same⟩ := arises "c" "m" "Yes." usage words Unit (pure 0) ()
  refine ⟨words, c, congrArg Prod.fst ran, same, ?_⟩
  rw [(accepted Unit _ _ _ _ _ ran).2, same]
  decide

/-- Each count is a word, their sum is not. -/
theorem token_total_beyond_word :
    let access : Access := { defaultModel := "m" }
    let run (provider : Provider) (text : String) :=
      ((client (fun _ => pure (.ok (Wire.carrying text))) (pure 0) provider access).complete
        {}).run ()
    let usage : TokenUsage := ⟨18446744073709551615, 1⟩
    let ollama := "\x7b\"model\":\"m\",\"prompt_eval_count\":18446744073709551615," ++
      "\"eval_count\":1\x7d"
    let openai := "\x7b\"id\":\"c\",\"model\":\"m\",\"choices\":[\x7b\"message\":" ++
      "\x7b\"role\":\"assistant\"\x7d\x7d],\"usage\":\x7b\"prompt_tokens\":" ++
      "18446744073709551615,\"completion_tokens\":1\x7d\x7d"
    (∃ c, run .ollama ollama = (.ok c, ()) ∧ c.usage = usage) ∧
      (∃ c, run .openai openai = (.ok c, ()) ∧ c.usage = usage) ∧
      ¬ usage.input + usage.output < 0x10000000000000000 ∧ usage.total = 0 := by
  intro access run usage ollama openai
  have held : Json.Decode.text (Ollama.decodeCompletion "ollama-0") ollama =
      some ⟨"ollama-0", "m", "", some .stop, usage⟩ := by decide +kernel
  have hosted : Json.Decode.text OpenAI.Reply.decode openai =
      some ⟨"c", "m", [⟨"", none⟩], some usage⟩ := by decide +kernel
  exact ⟨⟨_, Ollama.run_complete (Wire.answers_carrying held), rfl⟩,
    ⟨_, OpenAI.run_complete (Wire.answers_carrying hosted) rfl, rfl⟩, by decide, by decide⟩

end Backend

end ClaimAudit
