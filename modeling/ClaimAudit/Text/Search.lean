/-! Finding fragments of a text. Each search returns the pieces around what it
found, so nothing is lost and no position can fall outside the text. -/

set_option autoImplicit false

namespace ClaimAudit.Text

def dropPrefix : List Char → List Char → Option (List Char)
  | [], text => some text
  | _ :: _, [] => none
  | f :: fragment, c :: text => if f = c then dropPrefix fragment text else none

def splitFirst (fragment : List Char) : List Char → Option (List Char × List Char)
  | [] => (dropPrefix fragment []).map ([], ·)
  | c :: text =>
    match dropPrefix fragment (c :: text) with
    | some rest => some ([], rest)
    | none => (splitFirst fragment text).map fun (before, rest) => (c :: before, rest)

def splitLast (mark : Char) : List Char → Option (List Char × List Char)
  | [] => none
  | c :: text =>
    match splitLast mark text with
    | some (before, rest) => some (c :: before, rest)
    | none => if c = mark then some ([], text) else none

def splitAll {α : Type} [DecidableEq α] (mark : α) (items : List α) : List (List α) :=
  items.foldr (fun item pieces =>
    if item = mark then [] :: pieces
    else match pieces with
      | piece :: pieces => (item :: piece) :: pieces
      | [] => [[item]]) [[]]

def contains (text fragment : String) : Bool :=
  (splitFirst fragment.toList text.toList).isSome

theorem dropPrefix_eq_some {fragment text rest : List Char} :
    dropPrefix fragment text = some rest ↔ text = fragment ++ rest := by
  induction fragment generalizing text with
  | nil => simp [dropPrefix, eq_comm]
  | cons f fragment ih =>
    cases text with
    | nil => simp [dropPrefix]
    | cons c text =>
      by_cases same : f = c
      · subst same; simp [dropPrefix, ih]
      · simp [dropPrefix, same, Ne.symm same]

theorem eq_append_of_splitFirst {fragment text before rest : List Char}
    (found : splitFirst fragment text = some (before, rest)) :
    text = before ++ fragment ++ rest := by
  induction text generalizing before with
  | nil =>
    simp only [splitFirst, Option.map_eq_some_iff, Prod.mk.injEq] at found
    obtain ⟨_, dropped, rfl, rfl⟩ := found
    simpa using dropPrefix_eq_some.mp dropped
  | cons c text ih =>
    unfold splitFirst at found
    split at found
    · rename_i dropped
      cases found
      simpa using dropPrefix_eq_some.mp dropped
    · simp only [Option.map_eq_some_iff, Prod.mk.injEq] at found
      obtain ⟨⟨_, _⟩, inner, rfl, rfl⟩ := found
      simp [ih inner]

theorem eq_append_of_splitLast {mark : Char} {text before rest : List Char}
    (found : splitLast mark text = some (before, rest)) : text = before ++ mark :: rest := by
  induction text generalizing before with
  | nil => simp [splitLast] at found
  | cons c text ih =>
    unfold splitLast at found
    split at found
    · rename_i inner
      cases found
      simp [ih inner]
    · split at found
      · rename_i same
        cases found
        simp [same]
      · cases found

end ClaimAudit.Text
