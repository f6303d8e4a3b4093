import ClaimAudit.Json.Number

/-! JSON values, and the syntax trees they are read from.

A syntax tree keeps every member of an object in the order of the text, and keeps
string and number literals that denote nothing: an escape sequence without a
character, a number beyond every format. Such leaves only matter where somebody
asks for their value; `Tree.value?` asks for all of them.
-/

set_option autoImplicit false

namespace ClaimAudit.Json

inductive Value where
  | null
  | bool (value : Bool)
  | number (value : Number)
  | string (value : String)
  | array (items : List Value)
  | object (members : List (String × Value))

/-- A JSON text as it stands. `none` in a leaf or a key means that the literal is
well formed but denotes no value. -/
inductive Tree where
  | null
  | bool (value : Bool)
  | number (value : Option Number)
  | string (value : Option String)
  | array (items : List Tree)
  | object (members : List (Option String × Tree))

abbrev Members := List (String × Value)

def Members.set (key : String) (value : Value) : Members → Members
  | [] => [(key, value)]
  | (k, v) :: rest =>
    if key < k then (key, value) :: (k, v) :: rest
    else if k < key then (k, v) :: Members.set key value rest
    else (key, value) :: rest

/-- Of members with one key the last one counts. -/
def Members.ofList (members : List (String × Value)) : Members :=
  members.foldl (fun result (key, value) => Members.set key value result) []

def Members.get? (key : String) : Members → Option Value
  | [] => none
  | (k, v) :: rest => if k = key then some v else Members.get? key rest

def Members.erase (key : String) (members : Members) : Members :=
  members.filter fun (k, _) => k ≠ key

mutual

/-- The value of a tree with at most `levels` nested containers, if every literal
in it denotes one. -/
def Tree.value? (levels : Nat) : Tree → Option Value
  | .null => some .null
  | .bool b => some (.bool b)
  | .number n => n.map .number
  | .string s => s.map .string
  | .array items =>
    match levels with
    | 0 => none
    | levels + 1 => (values? levels items).map .array
  | .object members =>
    match levels with
    | 0 => none
    | levels + 1 => (memberValues? levels members).map fun ms => .object (Members.ofList ms)

def values? (levels : Nat) : List Tree → Option (List Value)
  | [] => some []
  | item :: rest => do
    let item ← item.value? levels
    let rest ← values? levels rest
    return item :: rest

def memberValues? (levels : Nat) : List (Option String × Tree) → Option (List (String × Value))
  | [] => some []
  | (key, item) :: rest => do
    let key ← key
    let item ← item.value? levels
    let rest ← memberValues? levels rest
    return (key, item) :: rest

end

mutual

def Value.tree : Value → Tree
  | .null => .null
  | .bool b => .bool b
  | .number n => .number (some n)
  | .string s => .string (some s)
  | .array items => .array (trees items)
  | .object members => .object (memberTrees members)

def trees : List Value → List Tree
  | [] => []
  | item :: rest => item.tree :: trees rest

def memberTrees : List (String × Value) → List (Option String × Tree)
  | [] => []
  | (key, item) :: rest => (some key, item.tree) :: memberTrees rest

end

def Value.string? : Value → Option String
  | .string s => some s
  | _ => none

def Value.ofNat (n : Nat) : Value := .number (.whole n)

def Value.ofFloat (x : Float) : Value := .number (.real x)

def Value.ofOption {α : Type} (value : α → Value) : Option α → Value
  | none => .null
  | some a => value a

def Value.strings (texts : List String) : Value := .array (texts.map .string)

namespace Members

theorem get?_set (key : String) (value : Value) (members : Members) :
    Members.get? key (Members.set key value members) = some value := by
  induction members with
  | nil => simp [set, get?]
  | cons head rest ih =>
    obtain ⟨k, v⟩ := head
    unfold set
    split
    · simp [get?]
    · split
      · rename_i below
        have differ : k ≠ key := fun same => by
          subst same; exact absurd below (String.lt_irrefl _)
        simp [get?, differ, ih]
      · simp [get?]

variable {key other : String} {value : Value} {members : Members}

theorem eq_of_not_lt (above : ¬ key < other) (below : ¬ other < key) : other = key :=
  String.le_antisymm (String.not_lt.mp above) (String.not_lt.mp below)

theorem get?_set_of_ne (differ : other ≠ key) :
    get? other (set key value members) = get? other members := by
  induction members with
  | nil => simp [set, get?, differ.symm]
  | cons head rest ih =>
    obtain ⟨k, v⟩ := head
    unfold set
    split
    · simp [get?, differ.symm]
    · split
      · simp [get?, ih]
      · have same : k = key := eq_of_not_lt ‹_› ‹_›
        simp [get?, same, differ.symm]

theorem erase_set : erase key (set key value members) = erase key members := by
  induction members with
  | nil => simp [set, erase]
  | cons head rest ih =>
    obtain ⟨k, v⟩ := head
    unfold set
    split
    · simp [erase]
    · split
      · rw [erase, erase] at ih
        rw [erase, erase, List.filter_cons, List.filter_cons, ih]
      · have same : k = key := eq_of_not_lt ‹_› ‹_›
        simp [erase, same]

theorem erase_eq_self_iff : erase key members = members ↔ key ∉ members.map (·.1) := by
  rw [erase, List.filter_eq_self]
  simp only [decide_eq_true_eq, List.mem_map, not_exists, not_and]

theorem mem_of_mem_set {member : String × Value} (among : member ∈ set key value members) :
    member = (key, value) ∨ member ∈ members := by
  induction members with
  | nil => exact .inl (List.mem_singleton.mp among)
  | cons head rest ih =>
    unfold set at among
    split at among
    · exact List.mem_cons.mp among
    · split at among
      · rcases List.mem_cons.mp among with rfl | later
        · exact .inr List.mem_cons_self
        · exact (ih later).imp id (List.mem_cons_of_mem head)
      · exact (List.mem_cons.mp among).imp id (List.mem_cons_of_mem head)

theorem increasing_set (increasing : (members.map (·.1)).Pairwise (· < ·)) :
    ((set key value members).map (·.1)).Pairwise (· < ·) := by
  induction members with
  | nil => exact List.pairwise_singleton _ _
  | cons head rest ih =>
    obtain ⟨k, v⟩ := head
    have ⟨least, others⟩ := List.pairwise_cons.mp increasing
    unfold set
    split
    · rename_i below
      refine List.pairwise_cons.mpr ⟨fun later member => ?_, increasing⟩
      rcases List.mem_cons.mp member with rfl | member
      · exact below
      · exact String.lt_trans below (least later member)
    · split
      · rename_i above
        refine List.pairwise_cons.mpr ⟨fun later member => ?_, ih others⟩
        obtain ⟨m, among, rfl⟩ := List.mem_map.mp member
        rcases mem_of_mem_set among with rfl | old
        · exact above
        · exact least m.1 (List.mem_map_of_mem old)
      · have same : k = key := eq_of_not_lt ‹_› ‹_›
        exact same ▸ increasing

theorem mem_of_mem_foldl {start : Members} {rest : List (String × Value)}
    {member : String × Value}
    (among : member ∈ rest.foldl (fun result entry => set entry.1 entry.2 result) start) :
    member ∈ start ∨ member ∈ rest := by
  induction rest generalizing start with
  | nil => exact .inl among
  | cons head rest ih =>
    rcases ih among with before | later
    · rcases mem_of_mem_set before with rfl | old
      · exact .inr List.mem_cons_self
      · exact .inl old
    · exact .inr (List.mem_cons_of_mem head later)

theorem mem_of_mem_ofList {members : List (String × Value)} {member : String × Value}
    (among : member ∈ ofList members) : member ∈ members :=
  (mem_of_mem_foldl among).resolve_left List.not_mem_nil

theorem increasing_ofList (members : List (String × Value)) :
    ((ofList members).map (·.1)).Pairwise (· < ·) := by
  have collect : ∀ start : Members, (start.map (·.1)).Pairwise (· < ·) →
      ((members.foldl (fun result entry => set entry.1 entry.2 result) start).map
        (·.1)).Pairwise (· < ·) := by
    induction members with
    | nil => exact fun _ increasing => increasing
    | cons head rest ih => exact fun _ increasing => ih _ (increasing_set increasing)
  exact collect [] List.Pairwise.nil

theorem nodup_of_increasing (increasing : (members.map (·.1)).Pairwise (· < ·)) :
    (members.map (·.1)).Nodup :=
  increasing.imp String.ne_of_lt

theorem lookup_of_mem (distinct : (members.map (·.1)).Nodup)
    (member : (key, value) ∈ members) : members.lookup key = some value := by
  induction members with
  | nil => cases member
  | cons head rest ih =>
    obtain ⟨fresh, distinct⟩ := List.nodup_cons.mp distinct
    rcases List.mem_cons.mp member with rfl | later
    · exact List.lookup_cons_self
    · have differ : key ≠ head.1 := fun same =>
        fresh (List.mem_map.mpr ⟨(key, value), later, same⟩)
      rw [List.lookup_cons, beq_eq_false_iff_ne.mpr differ]
      exact ih distinct later

theorem get?_eq_lookup : get? key members = members.lookup key := by
  induction members with
  | nil => rfl
  | cons head rest ih =>
    obtain ⟨k, v⟩ := head
    rw [get?, List.lookup_cons]
    by_cases same : k = key
    · simp [same]
    · have differ : (key == k) = false := by simpa using Ne.symm same
      rw [if_neg same, differ]
      exact ih

end Members

end ClaimAudit.Json
