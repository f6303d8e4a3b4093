import ClaimAudit.Proofs.ClaimProvenance
import Mathlib.Data.String.Basic

/-! The part of a reply that is read, cut out by byte offsets.

A text in UTF-8 can be cut between two of its characters, and nowhere else. Offsets that come from
searches are of this kind: each is the size of a piece that ends where a character ends. So a reply
can be cut by offsets alone, and the part that this yields is the one that pieces yield.
-/

set_option autoImplicit false

namespace ClaimAudit

namespace Text

open String (utf8Len)

variable {text before rest part : List Char} {mark : Char} {n start stop : Nat}

/-- The text before and after its first `n` bytes. There are none if it is shorter, or if the cut
would be inside of a character. -/
def splitBytes : Nat → List Char → Option (List Char × List Char)
  | 0, text => some ([], text)
  | _ + 1, [] => none
  | n + 1, c :: text =>
    if c.utf8Size ≤ n + 1 then
      (splitBytes (n + 1 - c.utf8Size) text).map fun (before, rest) => (c :: before, rest)
    else none

structure BadSlice where
  start : Nat
  stop : Nat
  deriving DecidableEq, Repr

/-- The part of a text between two byte offsets that are in order and at which it can be cut. -/
def part? (start stop : Nat) (text : List Char) : Option (List Char) := do
  guard (start ≤ stop)
  let (_, rest) ← splitBytes start text
  let (part, _) ← splitBytes (stop - start) rest
  return part

def slice (start stop : Nat) (text : List Char) : Except BadSlice (List Char) :=
  (part? start stop text).elim (.error ⟨start, stop⟩) .ok

def sliceFrom (start : Nat) (text : List Char) : Except BadSlice (List Char) :=
  slice start (utf8Len text) text

def offset? (fragment text : List Char) : Option Nat :=
  (splitFirst fragment text).map fun (before, _) => utf8Len before

def lastOffset? (mark : Char) (text : List Char) : Option Nat :=
  (splitLast mark text).map fun (before, _) => utf8Len before

def IsBoundary (n : Nat) (text : List Char) : Prop :=
  (⟨n⟩ : String.Pos.Raw).IsValid (String.ofList text)

/-- A cut behind at least one byte of a text is behind its first character. -/
theorem cons_eq_append_iff {c : Char} (positive : 0 < n) :
    c :: text = before ++ rest ∧ utf8Len before = n ↔
      ∃ front, before = c :: front ∧ text = front ++ rest ∧ c.utf8Size + utf8Len front = n := by
  constructor
  · rintro ⟨same, size⟩
    cases before with
    | nil =>
      rw [String.utf8Len_nil] at size
      omega
    | cons d front =>
      obtain ⟨rfl, rfl⟩ := List.cons.inj same
      rw [String.utf8Len_cons] at size
      exact ⟨front, rfl, rfl, by omega⟩
  · rintro ⟨front, rfl, rfl, size⟩
    rw [String.utf8Len_cons]
    exact ⟨rfl, by omega⟩

theorem splitBytes_eq_some_iff :
    splitBytes n text = some (before, rest) ↔ text = before ++ rest ∧ utf8Len before = n := by
  fun_induction splitBytes n text generalizing before with
  | case1 text =>
    rw [Option.some.injEq, Prod.mk.injEq]
    constructor
    · rintro ⟨rfl, rfl⟩
      exact ⟨rfl, rfl⟩
    · rintro ⟨rfl, size⟩
      obtain rfl := String.utf8Len_eq_zero.mp size
      exact ⟨rfl, rfl⟩
  | case2 n =>
    constructor
    · rintro ⟨⟩
    · rintro ⟨empty, size⟩
      obtain ⟨rfl, rfl⟩ := List.append_eq_nil_iff.mp empty.symm
      cases size
  | case3 n c text fits ih =>
    rw [Option.map_eq_some_iff, cons_eq_append_iff n.succ_pos]
    constructor
    · rintro ⟨⟨front, rear⟩, found, same⟩
      cases same
      obtain ⟨rfl, size⟩ := ih.mp found
      exact ⟨front, rfl, rfl, by omega⟩
    · rintro ⟨front, rfl, rfl, size⟩
      exact ⟨(front, rest), ih.mpr ⟨rfl, by omega⟩, rfl⟩
  | case4 n c text short =>
    -- The cut would be inside of this character.
    rw [cons_eq_append_iff n.succ_pos]
    constructor
    · rintro ⟨⟩
    · rintro ⟨front, -, -, size⟩
      omega

theorem part?_eq_some_iff : part? start stop text = some part ↔
    ∃ before rest, text = before ++ (part ++ rest) ∧ utf8Len before = start ∧
      utf8Len before + utf8Len part = stop := by
  constructor
  · intro found
    obtain ⟨_, ordered, found⟩ := Option.bind_eq_some_iff.mp found
    obtain ⟨⟨before, behind⟩, first, found⟩ := Option.bind_eq_some_iff.mp found
    obtain ⟨⟨inner, rest⟩, second, same⟩ := Option.bind_eq_some_iff.mp found
    cases same
    have ordered := (Option.guard_eq_some' _).mp ordered
    obtain ⟨rfl, size⟩ := splitBytes_eq_some_iff.mp first
    obtain ⟨rfl, length⟩ := splitBytes_eq_some_iff.mp second
    exact ⟨before, rest, rfl, size, by omega⟩
  · rintro ⟨before, rest, rfl, rfl, rfl⟩
    have first : splitBytes (utf8Len before) (before ++ (part ++ rest)) =
        some (before, part ++ rest) := splitBytes_eq_some_iff.mpr ⟨rfl, rfl⟩
    have second : splitBytes (utf8Len before + utf8Len part - utf8Len before) (part ++ rest) =
        some (part, rest) := splitBytes_eq_some_iff.mpr ⟨rfl, by omega⟩
    simp only [part?, Nat.le_add_right, guard_true, first, second, bind, Option.bind_some]
    rfl

theorem slice_eq_ok_iff : slice start stop text = .ok part ↔
    ∃ before rest, text = before ++ (part ++ rest) ∧ utf8Len before = start ∧
      utf8Len before + utf8Len part = stop := by
  rw [← part?_eq_some_iff, slice]
  cases part? start stop text <;> simp

theorem isBoundary_iff : IsBoundary n text ↔
    ∃ before rest, text = before ++ rest ∧ utf8Len before = n := by
  rw [IsBoundary, String.Pos.Raw.isValid_iff_exists_append]
  constructor
  · rintro ⟨before, rest, same, place⟩
    obtain ⟨before, rfl⟩ := before.exists_eq_ofList
    obtain ⟨rest, rfl⟩ := rest.exists_eq_ofList
    rw [← String.ofList_append, String.ofList_inj] at same
    rw [String.rawEndPos_ofList] at place
    exact ⟨before, rest, same, (congrArg String.Pos.Raw.byteIdx place).symm⟩
  · rintro ⟨before, rest, rfl, rfl⟩
    exact ⟨.ofList before, .ofList rest, String.ofList_append, (String.rawEndPos_ofList before).symm⟩

/-- There is a part between two offsets exactly if they are in order and the text can be cut at
both. -/
theorem exists_slice_iff : (∃ part, slice start stop text = .ok part) ↔
    start ≤ stop ∧ IsBoundary start text ∧ IsBoundary stop text := by
  simp only [slice_eq_ok_iff, isBoundary_iff]
  constructor
  · rintro ⟨part, before, rest, rfl, rfl, rfl⟩
    exact ⟨Nat.le_add_right _ _, ⟨before, part ++ rest, rfl, rfl⟩, ⟨before ++ part, rest,
      (List.append_assoc _ _ _).symm, String.utf8Len_append _ _⟩⟩
  · rintro ⟨ordered, ⟨before, behind, rfl, rfl⟩, ⟨front, rest, same, rfl⟩⟩
    rcases List.append_eq_append_iff.mp same with ⟨part, rfl, rfl⟩ | ⟨extra, rfl, rfl⟩
    · exact ⟨part, before, rest, rfl, rfl, (String.utf8Len_append _ _).symm⟩
    · rw [String.utf8Len_append] at ordered
      obtain rfl : extra = [] := String.utf8Len_eq_zero.mp (by omega)
      exact ⟨[], front, behind, by simp, by simp, by simp⟩

theorem slice_pieces (before part rest : List Char) :
    slice (utf8Len before) (utf8Len before + utf8Len part) (before ++ (part ++ rest)) = .ok part :=
  slice_eq_ok_iff.mpr ⟨before, rest, rfl, rfl, rfl⟩

theorem sliceFrom_pieces (before rest : List Char) :
    sliceFrom (utf8Len before) (before ++ rest) = .ok rest := by
  rw [sliceFrom, String.utf8Len_append]
  simpa using slice_pieces before rest []

theorem splitLast_append (front : List Char) (mark : Char) (text : List Char) :
    splitLast mark (front ++ text) =
      match splitLast mark text with
      | some (before, rest) => some (front ++ before, rest)
      | none => (splitLast mark front).map fun (before, rest) => (before, rest ++ text) := by
  induction front with
  | nil =>
    rw [List.nil_append]
    cases splitLast mark text <;> rfl
  | cons c front ih =>
    rw [List.cons_append, splitLast, ih, splitLast]
    cases splitLast mark text with
    | some pieces => rfl
    | none =>
      cases splitLast mark front with
      | some pieces => rfl
      | none => by_cases same : c = mark <;> simp [same]

theorem lastOffset?_append_of_some (front : List Char)
    (found : splitLast mark text = some (before, rest)) :
    lastOffset? mark (front ++ text) = some (utf8Len (front ++ before)) := by
  rw [lastOffset?, splitLast_append, found]
  rfl

theorem lastOffset?_le {front : List Char} {head : Char} (absent : splitLast mark text = none)
    (found : lastOffset? mark (front ++ head :: text) = some n) : n ≤ utf8Len front := by
  rw [lastOffset?, splitLast_append, splitLast, absent] at found
  by_cases same : head = mark
  · rw [if_pos same] at found
    obtain rfl := Option.some.inj found
    rw [List.append_nil]
  · simp only [if_neg same, Option.map_map, Option.map_eq_some_iff] at found
    obtain ⟨⟨before, rest⟩, earlier, rfl⟩ := found
    obtain rfl := eq_append_of_splitLast earlier
    exact String.utf8Len_le_of_prefix ⟨mark :: rest, rfl⟩

end Text

namespace Reply

open String (utf8Len)
open Text (BadSlice IsBoundary lastOffset? offset? slice sliceFrom splitFirst splitLast trimChars)

variable {opening closing : Char} {reply : List Char}

namespace ByOffsets

def blockFrom (start : Nat) (reply : List Char) : Except BadSlice (Option (List Char)) := do
  match offset? fence (← sliceFrom start reply) with
  | some size => return some (← slice start (start + size) reply)
  | none => return none

def jsonBlock (reply : List Char) : Except BadSlice (Option (List Char)) :=
  match offset? jsonFence reply with
  | some start => blockFrom (start + 7) reply
  | none => return none

def pastLanguage (start : Nat) (reply : List Char) : Except BadSlice Nat := do
  match offset? ['\n'] (← sliceFrom start reply) with
  | some size => return start + size + 1
  | none => return start

def fencedBlock (reply : List Char) : Except BadSlice (Option (List Char)) := do
  match offset? fence reply with
  | some start => blockFrom (← pastLanguage (start + 3) reply) reply
  | none => return none

/-- The span from the first opening bracket up to and with the byte of the last closing bracket, if
that comes later. -/
def bracketed (opening closing : Char) (reply : List Char) :
    Except BadSlice (Option (List Char)) := do
  match offset? [opening] reply, lastOffset? closing reply with
  | some start, some last =>
    if start < last then return some (← slice start (last + 1) reply) else return none
  | _, _ => return none

end ByOffsets

/-- The part of a reply that is read, cut out by byte offsets. -/
def excerptByOffsets (opening closing : Char) (reply : List Char) :
    Except BadSlice (List Char) := do
  if let some block ← ByOffsets.jsonBlock reply then return trimChars block
  if let some block ← ByOffsets.fencedBlock reply then return trimChars block
  if let some span ← ByOffsets.bracketed opening closing reply then return span
  return trimChars reply

namespace ByOffsets

theorem blockFrom_pieces (before opened : List Char) :
    blockFrom (utf8Len before) (before ++ opened) = .ok (do
      let (block, _) ← splitFirst fence opened
      return block) := by
  rw [blockFrom, Text.sliceFrom_pieces]
  simp only [bind, Except.bind, offset?]
  cases found : splitFirst fence opened with
  | none => rfl
  | some pieces =>
    obtain ⟨block, rest⟩ := pieces
    obtain rfl := Text.eq_append_of_splitFirst found
    simp only [Option.map_some, List.append_assoc, Text.slice_pieces]
    rfl

theorem jsonBlock_eq (reply : List Char) : jsonBlock reply = .ok (jsonBlock? reply) := by
  rw [jsonBlock, jsonBlock?, offset?]
  cases found : splitFirst jsonFence reply with
  | none => rfl
  | some pieces =>
    obtain ⟨before, opened⟩ := pieces
    obtain rfl := Text.eq_append_of_splitFirst found
    have start : utf8Len before + 7 = utf8Len (before ++ jsonFence) := by
      rw [String.utf8Len_append]
      rfl
    simp only [Option.map_some, start, blockFrom_pieces]
    rfl

/-- Behind a language name is what follows its line. -/
theorem pastLanguage_pieces (before opened : List Char) :
    ∃ name, opened = name ++ afterLanguage opened ∧
      pastLanguage (utf8Len before) (before ++ opened) = .ok (utf8Len (before ++ name)) := by
  rw [pastLanguage, Text.sliceFrom_pieces, afterLanguage]
  simp only [bind, Except.bind, offset?]
  cases found : splitFirst ['\n'] opened with
  | none => exact ⟨[], rfl, by rw [List.append_nil]; rfl⟩
  | some pieces =>
    obtain ⟨name, rest⟩ := pieces
    obtain rfl := Text.eq_append_of_splitFirst found
    refine ⟨name ++ ['\n'], rfl, ?_⟩
    rw [String.utf8Len_append, String.utf8Len_append]
    rfl

theorem fencedBlock_eq (reply : List Char) : fencedBlock reply = .ok (fencedBlock? reply) := by
  rw [fencedBlock, fencedBlock?, offset?]
  cases found : splitFirst fence reply with
  | none => rfl
  | some pieces =>
    obtain ⟨before, opened⟩ := pieces
    obtain rfl := Text.eq_append_of_splitFirst found
    have start : utf8Len before + 3 = utf8Len (before ++ fence) := by
      rw [String.utf8Len_append]
      rfl
    obtain ⟨name, same, past⟩ := pastLanguage_pieces (before ++ fence) opened
    have whole : before ++ fence ++ opened = (before ++ fence ++ name) ++ afterLanguage opened := by
      rw [List.append_assoc _ name, ← same]
    simp only [Option.map_some, start, past, bind, Except.bind]
    rw [whole, blockFrom_pieces]
    rfl

/-- A closing bracket of one byte can be cut off behind that byte. -/
theorem bracketed_eq (ascii : closing.toNat < 128) (opening : Char) (reply : List Char) :
    bracketed opening closing reply = .ok (bracketed? opening closing reply) := by
  rw [bracketed, bracketed?, offset?]
  cases found : splitFirst [opening] reply with
  | none => rfl
  | some pieces =>
    obtain ⟨before, opened⟩ := pieces
    obtain rfl := Text.eq_append_of_splitFirst found
    rw [List.append_assoc, List.singleton_append]
    cases closed : splitLast closing opened with
    | none =>
      cases last : lastOffset? closing (before ++ opening :: opened) with
      | none => simp [closed, bind, pure, Except.pure]
      | some n =>
        -- The last closing bracket comes before the opening one, so it ends nothing.
        have earlier := Text.lastOffset?_le closed last
        simp only [Option.map_some, if_neg earlier.not_gt, bind, Option.bind_some, closed]
        rfl
    | some pieces =>
      obtain ⟨inner, rest⟩ := pieces
      have behind : splitLast closing (opening :: opened) = some (opening :: inner, rest) := by
        rw [splitLast, closed]
      have last := Text.lastOffset?_append_of_some before behind
      obtain rfl := Text.eq_append_of_splitLast closed
      have byte : closing.utf8Size = 1 := Char.utf8Size_eq_one_iff.mpr (Nat.le_of_lt_succ ascii)
      have later : utf8Len before < utf8Len (before ++ opening :: inner) := by
        have size := opening.utf8Size_pos
        rw [String.utf8Len_append, String.utf8Len_cons]
        omega
      have span : utf8Len (before ++ opening :: inner) + 1 =
          utf8Len before + utf8Len (opening :: inner ++ [closing]) := by
        simp only [String.utf8Len_append, String.utf8Len_cons, String.utf8Len_nil, byte]
        omega
      have pieces : before ++ opening :: (inner ++ closing :: rest) =
          before ++ (opening :: inner ++ [closing] ++ rest) := by simp
      simp only [Option.map_some, last, if_pos later, span, bind, Option.bind_some, closed]
      rw [pieces, Text.slice_pieces]
      rfl

end ByOffsets

/-- A slice is refused unless its offsets are in order, lie within the text and lie between two of its
characters. None of a reply is refused, and what the offsets yield is what pieces yield, which is a
contiguous part of the reply. -/
theorem slices_stay_in_reply (opening closing : Char) (ascii : closing.toNat < 128)
    (reply : List Char) :
    (∀ start stop text, (∃ part, slice start stop text = .ok part) ↔
      start ≤ stop ∧ IsBoundary start text ∧ IsBoundary stop text) ∧
    excerptByOffsets opening closing reply = .ok (excerpt opening closing reply) ∧
    excerpt opening closing reply <:+: reply := by
  refine ⟨fun _ _ _ => Text.exists_slice_iff, ?_, excerpt_infix_self opening closing reply⟩
  rw [excerptByOffsets, ByOffsets.jsonBlock_eq, ByOffsets.fencedBlock_eq,
    ByOffsets.bracketed_eq ascii, excerpt]
  cases jsonBlock? reply with
  | some block => rfl
  | none =>
    cases fencedBlock? reply with
    | some block => rfl
    | none => cases bracketed? opening closing reply <;> rfl

/-- The fourth backquote belongs to the line that is skipped, nothing follows that line, and the
closing bracket comes first. -/
theorem slices_stay_in_reply_four_backquotes :
    let reply := "]é````[\n".toList
    ']'.toNat < 128 ∧ excerptByOffsets '[' ']' reply = .ok (excerpt '[' ']' reply) ∧
      excerpt '[' ']' reply = "]é````[".toList := by
  intro reply
  exact ⟨by decide, (slices_stay_in_reply '[' ']' (by decide) reply).2.1, by decide +kernel⟩

/-- A closing bracket of two bytes would be cut in two. -/
example : excerptByOffsets '«' '»' "«a»".toList = .error ⟨0, 4⟩ := by decide +kernel

end Reply

end ClaimAudit
