import Balancer.Word

/-!
# Structured values and records

The values of the wire format, with integers apart from other numbers, and the reading of
records from them. A record is written as an object; it is also read from an array of its
fields in the order of declaration, where fields with a default may be missing at the end.
Names that a record does not declare are ignored.
-/

namespace Balancer

/-- A structured value. A number written with a fraction is kept as its digits and the count
of places behind the point. -/
inductive Json where
  | null
  | bool (value : Bool)
  | int (value : Int)
  | fraction (digits : Int) (places : Nat)
  | str (text : String)
  | arr (items : List Json)
  | obj (members : List (String × Json))
  deriving Inhabited

namespace Json

/-- The text of a string value. -/
def text? : Json → Option String
  | .str text => some text
  | _ => none

/-- The natural number of an integer value below the limit. -/
def nat? (limit : Nat) : Json → Option Nat
  | .int (.ofNat value) => if value < limit then some value else none
  | _ => none

/-- The 16-bit number of an integer value. -/
def word16? (value : Json) : Option UInt16 :=
  (value.nat? word16Count).map UInt16.ofNat

/-- The items of an array, each read by the same reader. -/
def list? {α : Type} (read : Json → Option α) : Json → Option (List α)
  | .arr items => items.mapM read
  | _ => none

/-- An absent value, or one read by the given reader. -/
def option? {α : Type} (read : Json → Option α) : Json → Option (Option α)
  | .null => some none
  | value => (read value).map some

/-- The name of a choice without content: a string, or an object with the name as its only
member and nothing in it. -/
def choice? : Json → Option String
  | .str name => some name
  | .obj [(name, .null)] => some name
  | _ => none

/-- The fields of a record, by name; `order` lists the names in the order of declaration. -/
def fields? (order : List String) : Json → Option (List (String × Json))
  | .obj members => some members
  | .arr items => if items.length ≤ order.length then some (order.zip items) else none
  | _ => none

/-- A field that must be there. -/
def required {α : Type} (read : Json → Option α) (fields : List (String × Json)) (name : String) :
    Option α :=
  (fields.lookup name).bind read

/-- A field that has a default when it is missing. -/
def withDefault {α : Type} (default : α) (read : Json → Option α) (fields : List (String × Json))
    (name : String) : Option α :=
  match fields.lookup name with
  | none => some default
  | some value => read value

/-- The integer value of a 16-bit number. -/
def ofWord16 (value : UInt16) : Json :=
  .int value.toNat

/-- A 16-bit number is read back. -/
theorem word16?_ofWord16 (value : UInt16) : (ofWord16 value).word16? = some value := by
  have h : value.toNat < 65536 := value.toNat_lt
  simp [word16?, ofWord16, nat?, word16Count, h]

/-- A list is read back when each of its items is. -/
theorem list?_arr_map {α : Type} (read : Json → Option α) (write : α → Json)
    (h : ∀ a, read (write a) = some a) (items : List α) :
    list? read (.arr (items.map write)) = some items := by
  induction items with
  | nil => rfl
  | cons a rest ih =>
    simp only [list?] at ih ⊢
    simp [h, ih]

end Json

end Balancer
