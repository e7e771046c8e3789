import Stencil.Json.Record
import Stencil.Proofs.Json.Draft

/-! # JSON text over several lines read back

Line breaks and indentation stand in front of an item, a name or a closing bracket, where a reader
goes past whitespace. So a value that is written over several lines tells the draft of what it holds
(`Draft.ofJson`), however deep inside others it stands. This is for values without doubles: a whole
number of any size is read as the digits it was written with.
-/

namespace Stencil.Json

/-- A whole number as it is written. -/
def Numeral.ofInt (n : Int) : Numeral := ⟨decide (n < 0), Decimal.digits n.natAbs, [], false, none⟩

mutual

/-- Whether all numbers in a value are whole. -/
def isExact : Json → Bool
  | number (.float _) => false
  | array items => areExact items
  | object members => membersExact members
  | _ => true

/-- Whether all numbers in some values are whole. -/
def areExact : List Json → Bool
  | [] => true
  | item :: rest => item.isExact && areExact rest

/-- Whether all numbers in the values of members are whole. -/
def membersExact : List (String × Json) → Bool
  | [] => true
  | (_, item) :: rest => item.isExact && membersExact rest

end

mutual

/-- What is read of a value once it is written. How a double is read depends on the double. -/
def Draft.ofJson : Json → Draft
  | .null => .null
  | .bool b => .bool b
  | .number (.integer n) => .number (.ofInt n)
  | .number (.float _) => .broken
  | .string s => .string (some s)
  | .array items => .array (ofItems items) true
  | .object members => .object (ofMembers members) true

/-- What is read of items. -/
def Draft.ofItems : List Json → List Draft
  | [] => []
  | item :: rest => ofJson item :: ofItems rest

/-- What is read of members. -/
def Draft.ofMembers : List (String × Json) → List (Option String × Draft)
  | [] => []
  | (name, item) :: rest => (some name, ofJson item) :: ofMembers rest

end

theorem areExact_map {α : Type} {encode : α → Json} (each : ∀ a, (encode a).isExact = true)
    (items : List α) : areExact (items.map encode) = true := by
  induction items with
  | nil => rfl
  | cons a items ih => simp [areExact, each, ih]

@[simp] theorem isExact_ofNat (n : Nat) : (Json.ofNat n).isExact = true := rfl

@[simp] theorem isExact_ofTexts (texts : List String) : (Json.ofTexts texts).isExact = true :=
  areExact_map (fun _ => rfl) texts

/-! ## Whole numbers -/

theorem takeWhole?_digits (n : Nat) :
    Numeral.takeWhole? (Decimal.digits n) = some (Decimal.digits n, []) := by
  have numeral := Decimal.isNumeral_digits n
  have span : Decimal.spanDigits (Decimal.digits n ++ []) = (Decimal.digits n, []) :=
    Decimal.spanDigits_digits_append numeral.digit (by simp)
  rw [List.append_nil] at span
  rw [Numeral.takeWhole?, span]
  split
  · next empty => exact absurd (Prod.mk.inj empty).1 numeral.nonempty
  · next ds rest _ same =>
    cases same
    rw [if_neg]
    rintro ⟨zero, longer⟩
    exact longer (numeral.unpadded zero)

/-- A whole number is read as the digits it was written with. -/
theorem read?_ofInt (n : Int) :
    Numeral.read? (Number.integer n).text = some (.ofInt n, []) := by
  have sign : Numeral.takeMinus (Number.integer n).text =
      (decide (n < 0), Decimal.digits n.natAbs) := by
    rw [Number.text, Decimal.ofInt]
    split
    · next negative => simp [Decimal.ofNat, Numeral.takeMinus, negative]
    · next positive =>
      rw [Decimal.ofNat, String.toList_ofList, Numeral.takeMinus]
      · simp [positive]
      · intro rest minus
        have digit := Decimal.isDigit_of_mem_digits n.natAbs '-' (by simp [minus])
        exact absurd digit (by decide)
  rw [Numeral.read?, sign]
  simp [takeWhole?_digits, Numeral.takeFraction?, Numeral.takeExponent?, Numeral.ofInt]

/-! ## Values on lines of their own -/

theorem blank_newLine (depth : Nat) : Blank (newLine depth) := by
  intro c member
  rcases List.mem_cons.1 member with rfl | space
  · rfl
  · rw [List.eq_of_mem_replicate space]
    rfl

theorem prettyItems_eq_listed (depth : Nat) (items : List Json) :
    prettyItems depth items =
      listed (items.map fun item => newLine (depth + 1) ++ prettyAt (depth + 1) item)
        (newLine depth ++ [']']) := by
  induction items with
  | nil => rfl
  | cons item items ih => simp [prettyItems, ih, listed]

theorem prettyMembers_eq_listed (depth : Nat) (members : List (String × Json)) :
    prettyMembers depth members =
      listed (members.map fun member => newLine (depth + 1) ++
        (Quoted.encode member.1 ++ ':' :: ' ' :: prettyAt (depth + 1) member.2))
        (newLine depth ++ ['\x7d']) := by
  induction members with
  | nil => rfl
  | cons member members ih => simp [prettyMembers, ih, listed]

/-- The line of a member tells its name and what its value tells. -/
theorem tellsEntry_line (depth : Nat) (name : String) {chars : List Char} {draft : Draft}
    (told : Tells chars draft) :
    TellsEntry (newLine depth ++ (Quoted.encode name ++ ':' :: ' ' :: chars)) (some name, draft) := by
  have space : Blank [' '] := by simp [Blank, Draft.isSpace]
  exact ⟨newLine depth, name, ' ' :: chars, blank_newLine depth, rfl, rfl, told.spaced space⟩

mutual

/-- A value that is written over several lines tells what it holds. -/
theorem tells_prettyAt (depth : Nat) :
    ∀ json : Json, json.isExact = true → Tells (prettyAt depth json) (.ofJson json)
  | null, _ => tells_null
  | bool b, _ => tells_bool b
  | number (.integer n), _ => tells_number (read?_ofInt n)
  | string s, _ => tells_string s
  | array [], _ => tells_empty_array
  | object [], _ => tells_empty_object
  | array (item :: rest), whole => by
    simp only [isExact, areExact, Bool.and_eq_true] at whole
    have first := (tells_prettyAt (depth + 1) item whole.1).spaced (blank_newLine (depth + 1))
    have others := forall₂_tells_items (depth + 1) rest whole.2
    have bracketed := tells_bracketed (blank_newLine depth) first others
    change Tells _ (.array (.ofJson item :: Draft.ofItems rest) true)
    rw [prettyAt, prettyItems_eq_listed]
    simpa using bracketed
  | object ((name, item) :: rest), whole => by
    simp only [isExact, membersExact, Bool.and_eq_true] at whole
    have first := tellsEntry_line (depth + 1) name (tells_prettyAt (depth + 1) item whole.1)
    have others := forall₂_tells_members (depth + 1) rest whole.2
    have braced := tells_braced (blank_newLine depth) first others
    change Tells _ (.object ((some name, .ofJson item) :: Draft.ofMembers rest) true)
    rw [prettyAt, prettyMembers_eq_listed]
    simpa using braced

theorem forall₂_tells_items (depth : Nat) : ∀ items : List Json, areExact items = true →
    List.Forall₂ Tells (items.map fun item => newLine depth ++ prettyAt depth item)
      (Draft.ofItems items)
  | [], _ => .nil
  | item :: rest, whole => by
    simp only [areExact, Bool.and_eq_true] at whole
    refine .cons ?_ (forall₂_tells_items depth rest whole.2)
    exact (tells_prettyAt depth item whole.1).spaced (blank_newLine depth)

theorem forall₂_tells_members (depth : Nat) : ∀ members : List (String × Json),
    membersExact members = true →
    List.Forall₂ TellsEntry (members.map fun member => newLine depth ++
      (Quoted.encode member.1 ++ ':' :: ' ' :: prettyAt depth member.2)) (Draft.ofMembers members)
  | [], _ => .nil
  | (name, item) :: rest, whole => by
    simp only [membersExact, Bool.and_eq_true] at whole
    exact .cons (tellsEntry_line depth name (tells_prettyAt depth item whole.1))
      (forall₂_tells_members depth rest whole.2)

end

/-- A reader gets from a value written over several lines what it gets from what the value holds. -/
theorem Reader.ofText_toPretty {α : Type} (read : Reader α) {json : Json}
    (whole : json.isExact = true) :
    Reader.ofText read (json.toPretty ++ "\n") = read (.ofJson json) := by
  have ends : Numeral.EndsBefore ['\n'] := endsBefore_cons (by decide)
  have told := tells_prettyAt 0 json whole ['\n'] (2 * (prettyAt 0 json ++ ['\n']).length + 2) ends
    (by rw [List.length_append]; omega)
  have text : (json.toPretty ++ "\n").toList = prettyAt 0 json ++ ['\n'] := by
    simp [toPretty]
  have drafted : Draft.ofText (json.toPretty ++ "\n") = (.ofJson json, true) := by
    simp only [Draft.ofText, text, told]
    rfl
  simp only [Reader.ofText, drafted, bind, Except.bind]
  cases read (.ofJson json) <;> rfl

/-! ## Readers of parts -/

namespace Reader

variable {α : Type} {read : Reader α}

/-- Reads a whole number of any size that is not negative. -/
def count : Reader Nat
  | .number ⟨false, digits, [], false, none⟩ => .ok (Decimal.value digits)
  | draft => draft.unexpected "a whole number"

/-- Reads one member of an object. -/
def member (name : String) (read : Reader α) : Reader α
  | .object entries true =>
    match entries.lookup (some name) with
    | some draft => read draft
    | none => .error (.mismatch (.missing name))
  | draft => draft.unexpected "a map"

/-- Reads one member of an object if it is there. -/
def member? (name : String) (read : Reader α) : Reader (Option α)
  | .object entries true =>
    match entries.lookup (some name) with
    | some draft => (read draft).map some
    | none => .ok none
  | draft => draft.unexpected "a map"

@[simp] theorem text_ofJson (s : String) : text (.ofJson (.string s)) = .ok s := rfl

@[simp] theorem bool_ofJson (b : Bool) : bool (.ofJson (.bool b)) = .ok b := rfl

@[simp] theorem count_ofJson (n : Nat) : count (.ofJson (Json.ofNat n)) = .ok n := by
  change count (.number (.ofInt n)) = .ok n
  have positive : decide ((n : Int) < 0) = false := by simp
  rw [Numeral.ofInt, positive, count, Int.natAbs_natCast, Decimal.value_digits]

/-- From a list a reader gets what it gets from each item. -/
theorem list_ofJson_map {β : Type} {encode : β → Json} {decoded : β → α}
    (each : ∀ b, read (.ofJson (encode b)) = .ok (decoded b)) (items : List β) :
    list read (.ofJson (.array (items.map encode))) = .ok (items.map decoded) := by
  have all : (Draft.ofItems (items.map encode)).mapM read = .ok (items.map decoded) := by
    induction items with
    | nil => rfl
    | cons b items ih =>
      rw [List.map_cons, Draft.ofItems, List.mapM_cons, each, ih]
      rfl
  change list read (.array (Draft.ofItems (items.map encode)) true) = .ok (items.map decoded)
  simp only [list, all, bind, Except.bind]
  rfl

/-- A list is got back if each of its items is. -/
theorem list_ofJson {encode : α → Json} (each : ∀ a, read (.ofJson (encode a)) = .ok a)
    (items : List α) : list read (.ofJson (.array (items.map encode))) = .ok items := by
  rw [list_ofJson_map each, List.map_id']

@[simp] theorem texts_ofJson (texts : List String) :
    list text (.ofJson (Json.ofTexts texts)) = .ok texts :=
  list_ofJson text_ofJson texts

theorem lookup_ofMembers (name : String) (members : List (String × Json)) :
    (Draft.ofMembers members).lookup (some name) = (members.lookup name).map .ofJson := by
  induction members with
  | nil => rfl
  | cons member members ih =>
    obtain ⟨key, json⟩ := member
    rw [Draft.ofMembers, List.lookup_cons, List.lookup_cons, ih, Option.some_beq_some]
    split <;> rfl

/-- A member of an object is read from the value that stands under its name. -/
theorem member_ofJson (name : String) (members : List (String × Json)) :
    member name read (.ofJson (.object members)) =
      match members.lookup name with
      | some json => read (.ofJson json)
      | none => .error (.mismatch (.missing name)) := by
  change member name read (.object (Draft.ofMembers members) true) = _
  rw [member, lookup_ofMembers]
  cases members.lookup name <;> rfl

theorem member?_ofJson (name : String) (members : List (String × Json)) :
    member? name read (.ofJson (.object members)) =
      match members.lookup name with
      | some json => (read (.ofJson json)).map some
      | none => .ok none := by
  change member? name read (.object (Draft.ofMembers members) true) = _
  rw [member?, lookup_ofMembers]
  cases members.lookup name <;> rfl

end Reader

end Stencil.Json
