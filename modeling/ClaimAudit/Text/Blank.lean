import ClaimAudit.Text.Range

/-! Blank characters, and texts without blank margins.

A character is blank when Unicode gives it the property White_Space. Trimming
removes blanks at both ends and nothing else, so it changes no inner character.
-/

set_option autoImplicit false

namespace ClaimAudit.Text

/-- The code points with the property White_Space, as closed ranges in order. -/
def blankRanges : List (Nat × Nat) :=
  [(0x09, 0x0D), (0x20, 0x20), (0x85, 0x85), (0xA0, 0xA0), (0x1680, 0x1680),
   (0x2000, 0x200A), (0x2028, 0x2029), (0x202F, 0x202F), (0x205F, 0x205F), (0x3000, 0x3000)]

def isBlank (c : Char) : Bool := within blankRanges c

def trimStart (cs : List Char) : List Char := cs.dropWhile isBlank

def trimEnd (cs : List Char) : List Char := (cs.reverse.dropWhile isBlank).reverse

def trimChars (cs : List Char) : List Char := trimEnd (trimStart cs)

def trim (s : String) : String := String.ofList (trimChars s.toList)

def allBlank (s : String) : Bool := s.toList.all isBlank

theorem trimStart_eq_self_of_head {c : Char} {cs : List Char} (ink : isBlank c = false) :
    trimStart (c :: cs) = c :: cs := by
  simp [trimStart, ink]

end ClaimAudit.Text
