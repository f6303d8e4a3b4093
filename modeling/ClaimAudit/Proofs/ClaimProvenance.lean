import ClaimAudit.Proofs.Stages
import ClaimAudit.Proofs.WholeReply

/-! Where claims come from.

Whichever way the part of a reply that is read as JSON is chosen, it is a contiguous part of the
reply. So claims that are read from a reply stand in it, as strings of an array, and a reply without
brackets holds none. An answer is split by one call, and only a failure of this call is a failure.
-/

set_option autoImplicit false

namespace ClaimAudit

namespace Reply

variable {opening closing : Char} {reply block : List Char}

theorem infix_of_jsonBlock? (found : jsonBlock? reply = some block) : block <:+: reply := by
  obtain ⟨⟨_, opened⟩, first, found⟩ := Option.bind_eq_some_iff.mp found
  obtain ⟨⟨_, _⟩, closed, same⟩ := Option.bind_eq_some_iff.mp found
  cases same
  exact (Text.infix_of_splitFirst closed).1.trans (Text.infix_of_splitFirst first).2

theorem afterLanguage_infix_self (opened : List Char) : afterLanguage opened <:+: opened := by
  unfold afterLanguage
  split
  · rename_i found
    exact (Text.infix_of_splitFirst found).2
  · exact List.infix_rfl

theorem infix_of_fencedBlock? (found : fencedBlock? reply = some block) : block <:+: reply := by
  obtain ⟨⟨_, opened⟩, first, found⟩ := Option.bind_eq_some_iff.mp found
  obtain ⟨⟨_, _⟩, closed, same⟩ := Option.bind_eq_some_iff.mp found
  cases same
  exact ((Text.infix_of_splitFirst closed).1.trans (afterLanguage_infix_self opened)).trans
    (Text.infix_of_splitFirst first).2

theorem infix_of_bracketed? (found : bracketed? opening closing reply = some block) :
    block <:+: reply := by
  obtain ⟨⟨before, opened⟩, first, found⟩ := Option.bind_eq_some_iff.mp found
  obtain ⟨⟨inner, rest⟩, last, same⟩ := Option.bind_eq_some_iff.mp found
  cases same
  rw [Text.eq_append_of_splitFirst first, Text.eq_append_of_splitLast last]
  exact ⟨before, rest, by simp⟩

theorem excerpt_infix_self (opening closing : Char) (reply : List Char) :
    excerpt opening closing reply <:+: reply := by
  unfold excerpt
  split
  · rename_i found
    exact (Text.trimChars_infix_self _).trans (infix_of_jsonBlock? found)
  · split
    · rename_i found
      exact (Text.trimChars_infix_self _).trans (infix_of_fencedBlock? found)
    · cases found : bracketed? opening closing reply with
      | none => exact Text.trimChars_infix_self reply
      | some span => exact infix_of_bracketed? found

end Reply

namespace Extraction

open Json (Tree Value)

variable {config : Config} {content : String} {items : List Value}

/-- The trimmed texts of the strings among some items that have enough characters. -/
def claimsAmong (config : Config) (items : List Value) : List Claim :=
  (((items.filterMap Value.string?).map Text.trim).filter
    fun text => config.minClaimChars < text.length).map Claim.mk

theorem claims?_of_read? (read : Value.read? (Reply.excerpt '[' ']' content.toList) =
    some (.array items)) : claims? config content = some (claimsAmong config items) := by
  rw [claims?, read]
  exact congrArg some (filterMap_claim? config.minClaimChars items)

theorem read?_of_claims? {claims : List Claim} (found : claims? config content = some claims) :
    ∃ items, Value.read? (Reply.excerpt '[' ']' content.toList) = some (.array items) ∧
      claims = claimsAmong config items := by
  have reads := found
  unfold claims? at reads
  split at reads
  · rename_i items read
    rw [claims?_of_read? read] at found
    exact ⟨items, read, (Option.some.inj found).symm⟩
  · cases reads

theorem trimmed_of_mem_claimsAmong {claim : Claim} (member : claim ∈ claimsAmong config items) :
    Text.trim claim.text = claim.text ∧ config.minClaimChars < claim.text.length := by
  obtain ⟨text, kept, rfl⟩ := List.mem_map.mp member
  obtain ⟨trimmed, long⟩ := List.mem_filter.mp kept
  obtain ⟨spoken, _, rfl⟩ := List.mem_map.mp trimmed
  exact ⟨Text.trim_trim spoken, of_decide_eq_true long⟩

theorem brackets_of_claims? {claims : List Claim} (found : claims? config content = some claims) :
    '[' ∈ content.toList ∧ ']' ∈ content.toList := by
  obtain ⟨items, read, _⟩ := read?_of_claims? found
  obtain ⟨tree, read, known⟩ := Option.bind_eq_some_iff.mp read
  obtain ⟨lead, inner, trail, same, _, _⟩ :=
    Tree.brackets_of_read? read (Tree.container?_of_array known)
  have part := (Reply.excerpt_infix_self '[' ']' content.toList).subset
  rw [same] at part
  exact ⟨part (by simp [Json.Container.opening]), part (by simp [Json.Container.closing])⟩

end Extraction

namespace Auditor

variable {σ : Type} (a : Auditor σ) (response : String)

theorem resume_extract (p : Progress σ) :
    ∃ reply q, Talked a.client p [⟨Extraction.request a.extraction response, reply⟩] q ∧
      (a.extract response).resume none p =
        match reply with
        | .ok completion => (.ok (.ofReply a.extraction response completion.content), q)
        | .error error => (.error (.failed error), q) := by
  obtain ⟨reply, q, asked, talked⟩ :=
    (Talked.refl a.client p).ask (Extraction.request a.extraction response)
  refine ⟨reply, q, talked, ?_⟩
  rw [extract, Session.resume_bind, asked]
  cases reply <;> rfl

end Auditor

theorem Extraction.ofReply_cases (config : Config) (response content : String) :
    ((ofReply config response content).fallback = false ∧
      claims? config content = some (ofReply config response content).claims) ∨
    ((ofReply config response content).fallback = true ∧ claims? config content = none ∧
      (ofReply config response content).claims = [⟨response⟩]) := by
  unfold ofReply
  cases found : claims? config content with
  | none => exact .inr ⟨rfl, rfl, rfl⟩
  | some claims => exact .inl ⟨rfl, rfl⟩

open Json (Value)

/-- The claims read from a reply are the strings of an array that stands in it, trimmed and without
the short ones. Splitting an answer asks once and fails only if this call does; it returns claims
read from the reply, or else the answer itself as one claim. -/
theorem claims_stand_in_reply {σ : Type} (config : Extraction.Config) (content : String)
    (a : Auditor σ) (response : String) (p : Progress σ) :
    (∀ claims, Extraction.claims? config content = some claims →
      (∃ before text after items, content = before ++ text ++ after ∧
        Value.ofString? text = some (.array items) ∧
        claims = (((items.filterMap Value.string?).map Text.trim).filter
          fun text => config.minClaimChars < text.length).map Claim.mk) ∧
      ∀ claim ∈ claims, Text.trim claim.text = claim.text ∧
        config.minClaimChars < claim.text.length) ∧
    ('[' ∉ content.toList ∨ ']' ∉ content.toList → Extraction.claims? config content = none) ∧
    ∃ reply q,
      (a.client.complete (Extraction.request a.extraction response)).run p.outside =
        (reply, q.outside) ∧
      q.exchanges = p.exchanges ++ [⟨Extraction.request a.extraction response, reply⟩] ∧
      ((a.extract response).resume none p).2 = q ∧
      (∀ halt, ((a.extract response).resume none p).1 = .error halt ↔
        ∃ error, reply = .error error ∧ halt = .failed error) ∧
      ∀ completion, reply = .ok completion →
        ∃ extraction, ((a.extract response).resume none p).1 = .ok extraction ∧
          (extraction.fallback = false ∧
              Extraction.claims? a.extraction completion.content = some extraction.claims ∨
            extraction.fallback = true ∧ extraction.claims = [⟨response⟩]) ∧
          (extraction.fallback = true ↔
            Extraction.claims? a.extraction completion.content = none) := by
  refine ⟨fun claims found => ?_, fun missing => ?_, ?_⟩
  · obtain ⟨items, read, rfl⟩ := Extraction.read?_of_claims? found
    obtain ⟨before, after, parts⟩ := Reply.excerpt_infix_self '[' ']' content.toList
    refine ⟨⟨String.ofList before, String.ofList (Reply.excerpt '[' ']' content.toList),
      String.ofList after, items, ?_, ?_, rfl⟩,
      fun claim member => Extraction.trimmed_of_mem_claimsAmong member⟩
    · rw [← String.ofList_append, ← String.ofList_append, parts, String.ofList_toList]
    · rwa [Value.ofString?, String.toList_ofList]
  · cases found : Extraction.claims? config content with
    | none => rfl
    | some claims =>
      obtain ⟨opening, closing⟩ := Extraction.brackets_of_claims? found
      rcases missing with absent | absent
      · exact absurd opening absent
      · exact absurd closing absent
  · obtain ⟨reply, q, talked, ran⟩ := a.resume_extract response p
    refine ⟨reply, q, talked.answer, talked.exchanges, ?_⟩
    rw [ran]
    cases reply with
    | error error =>
      refine ⟨rfl, fun halt => ⟨fun same => ?_, ?_⟩, by simp⟩
      · cases same
        exact ⟨error, rfl, rfl⟩
      · rintro ⟨other, same, rfl⟩
        cases same
        rfl
    | ok completion =>
      refine ⟨rfl, fun halt => by simp, fun given same => ?_⟩
      cases same
      refine ⟨_, rfl, ?_⟩
      rcases Extraction.ofReply_cases a.extraction response completion.content with
        ⟨drawn, found⟩ | ⟨whole, unread, answer⟩
      · exact ⟨.inl ⟨drawn, found⟩, by simp [drawn, found]⟩
      · exact ⟨.inr ⟨whole, answer⟩, by simp [whole, unread]⟩

end ClaimAudit
