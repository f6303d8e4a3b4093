import ClaimAudit.Proofs.ReadableJudgments
import ClaimAudit.Proofs.ReportRoundTrip

/-! How a status is spelled.

A text names a status if, between blanks, it has the letters of the name of this status, in either
case, with any of three joints between two words. Nothing may be left out or added, so no character
beyond ASCII stands for a letter. JSON strings are read by the same rule, and a status is written in
one form, which is read as this status.
-/

set_option autoImplicit false

namespace ClaimAudit.Status

open Json (Tree Value)

variable {status : Status} {text : List Char}

/-- The status in a JSON text, written again. -/
def rewritten (text : String) : Option String :=
  (Json.Decode.text decode text).map fun status => status.json.render

section Letters

theorem ascii_of_mem_name (status : Status) : ∀ c ∈ status.name.toList, c.toNat < 128 := by
  have all : status.name.toList.all (fun c => decide (c.toNat < 128)) = true := by
    cases status <;> decide +kernel
  simpa using all

theorem Variant.ascii {letter c : Char} (variant : Variant letter c) (ascii : letter.toNat < 128) :
    c.toNat < 128 := by
  cases variant with
  | same => exact ascii
  | capital upper => exact of_isUpper (P := fun c => c.toNat < 128) (by decide) upper
  | hyphen | space => decide

theorem ascii_of_letters {name word : List Char} (letters : List.Forall₂ Variant name word)
    (ascii : ∀ c ∈ name, c.toNat < 128) : ∀ c ∈ word, c.toNat < 128 := by
  induction letters with
  | nil => exact List.forall_mem_nil _
  | cons first _ ih =>
    obtain ⟨here, rest⟩ := List.forall_mem_cons.mp ascii
    exact List.forall_mem_cons.mpr ⟨first.ascii here, ih rest⟩

theorem Spells.shape (spells : Spells status text) :
    (Text.trimChars text).length = status.name.toList.length ∧
      ∀ c ∈ Text.trimChars text, c.toNat < 128 :=
  ⟨spells.letters.length_eq.symm, ascii_of_letters spells.letters (ascii_of_mem_name status)⟩

theorem ofChars?_eq_none_iff : ofChars? text = none ↔ ∀ status, ¬ Spells status text := by
  rw [Option.eq_none_iff_forall_ne_some]
  exact forall_congr' fun status => not_congr ofChars?_eq_some_iff

theorem ofString?_label (status : Status) : ofString? status.label = some status := by
  cases status <;> decide +kernel

end Letters

section Strings

theorem string_eq_some_iff {source : Json.Source} {tree : Tree} {s : String} :
    Json.Decode.string source tree = some s ↔ tree = .string (some s) := by
  cases tree <;> simp [Json.Decode.string]

theorem text_decode_eq_some_iff {text : String} :
    Json.Decode.text decode text = some status ↔
      ∃ s, Tree.read? text.toList = some (.string (some s)) ∧ Spells status s.toList := by
  constructor
  · intro decoded
    obtain ⟨tree, read, decoded⟩ := Option.bind_eq_some_iff.mp decoded
    obtain ⟨s, string, named⟩ := Option.bind_eq_some_iff.mp decoded
    rw [string_eq_some_iff.mp string] at read
    exact ⟨s, read, ofChars?_eq_some_iff.mp named⟩
  · rintro ⟨s, read, spells⟩
    rw [Json.Decode.text, read]
    exact ofChars?_eq_some_iff.mpr spells

theorem text_decode_string (s : String) :
    Json.Decode.text decode (Value.string s).render = ofString? s :=
  Json.Decode.text_render decode fun _ none => nomatch none

theorem text_decode_json (status : Status) :
    Json.Decode.text decode status.json.render = some status :=
  (text_decode_string status.name).trans (ofString?_name status)

theorem rewritten_json (status : Status) :
    rewritten status.json.render = some status.json.render := by
  rw [rewritten, text_decode_json, Option.map_some]

end Strings

/-- A text is read as a status exactly if it spells this status: blanks, the letters of its name in
either case with an underscore, a hyphen or a space for the underscore, blanks. So names and labels
are read as what they name, and nothing longer, shorter or beyond ASCII is read at all. A JSON text
is read as a status exactly if it is a string that is; a status has one JSON text, from which it
is read back, and writing what was read a second time changes nothing. -/
theorem statuses_read_by_spelling :
    (∀ (text : String) (status : Status),
      ofString? text = some status ↔ Spells status text.toList) ∧
    (∀ text : String, ofString? text = none ↔ ∀ status, ¬ Spells status text.toList) ∧
    (∀ (text : String) (status : Status), ofString? text = some status →
      (Text.trimChars text.toList).length = status.name.toList.length ∧
        ∀ c ∈ Text.trimChars text.toList, c.toNat < 128) ∧
    (∀ status : Status,
      ofString? status.name = some status ∧ ofString? status.label = some status) ∧
    (∀ (text : String) (status : Status), Json.Decode.text decode text = some status ↔
      ∃ s, Tree.read? text.toList = some (.string (some s)) ∧ Spells status s.toList) ∧
    (∀ s : String, Json.Decode.text decode (Value.string s).render = ofString? s) ∧
    (∀ status : Status, status.json.render = "\"" ++ status.name ++ "\"" ∧
      Json.Decode.text decode status.json.render = some status) ∧
    ∀ text : String, (rewritten text).bind rewritten = rewritten text := by
  refine ⟨fun text status => ofChars?_eq_some_iff, fun text => ofChars?_eq_none_iff,
    fun text status read => (ofChars?_eq_some_iff.mp read).shape,
    fun status => ⟨ofString?_name status, ofString?_label status⟩,
    fun text status => text_decode_eq_some_iff, text_decode_string,
    fun status => ⟨?_, text_decode_json status⟩, fun text => ?_⟩
  · cases status <;> decide +kernel
  · cases read : rewritten text with
    | none => rfl
    | some written =>
      obtain ⟨status, _, rfl⟩ := Option.map_eq_some_iff.mp read
      rw [Option.bind_some, rewritten_json]

example : ofString? "\tPartially-SUPPORTED " = some .partiallySupported := by decide +kernel

example : ofString? "partially__supported" = none := by decide +kernel

end ClaimAudit.Status
