import BoundSql.Floating
import BoundSql.Keyed

/-! JSON trees with integers and floating numbers apart. `Json.same` is their equality, which ignores
the order of an object's members; a `Document` is a tree in normal form, whose objects have distinct
keys and whose numbers are finite. Trees are written as compact text, and described. -/
namespace BoundSql

open BoundSql.Floating

inductive Json where
  | null
  | bool (b : Bool)
  | integer (n : Int)
  | number (x : Double)
  | string (s : String)
  | array (items : List Json)
  | object (members : List (String × Json))

namespace Json

mutual

/-- Objects are the same when they are as large and each member on the left has its like under the
same key on the right. -/
def same : Json → Json → Bool
  | null, null => true
  | bool a, bool b => a == b
  | integer m, integer n => m == n
  | number x, number y => x.numericallyEqual y
  | string s, string t => s == t
  | array xs, array ys => sameItems xs ys
  | object xs, object ys => xs.length == ys.length && membersFound xs ys
  | _, _ => false

def sameItems : List Json → List Json → Bool
  | [], [] => true
  | x :: xs, y :: ys => same x y && sameItems xs ys
  | _, _ => false

def membersFound : List (String × Json) → List (String × Json) → Bool
  | [], _ => true
  | (key, x) :: xs, ys =>
    (match Keyed.get? key ys with
      | some y => same x y
      | none => false) && membersFound xs ys

end

mutual

/-- No object of the tree has a key twice, and no number is infinite or a NaN. -/
def Normal : Json → Prop
  | number x => x.isFinite = true
  | array items => NormalItems items
  | object members => (Keyed.keys members).Nodup ∧ NormalMembers members
  | _ => True

def NormalItems : List Json → Prop
  | [] => True
  | x :: xs => Normal x ∧ NormalItems xs

def NormalMembers : List (String × Json) → Prop
  | [] => True
  | (_, x) :: xs => Normal x ∧ NormalMembers xs

end

mutual

/-- The tree in which the last value of a repeated key stands at the place of the first, and `null`
at the place of a number that is not finite. -/
def normalized : Json → Json
  | number x => if x.isFinite then number x else null
  | array items => array (normalizedItems items)
  | object members => object (Keyed.ofWrites (normalizedMembers members))
  | json => json

def normalizedItems : List Json → List Json
  | [] => []
  | x :: xs => normalized x :: normalizedItems xs

def normalizedMembers : List (String × Json) → List (String × Json)
  | [] => []
  | (key, x) :: xs => (key, normalized x) :: normalizedMembers xs

end

theorem normalMembers_put {key : String} {x : Json} {members : List (String × Json)}
    (value : Normal x) (normal : NormalMembers members) :
    NormalMembers (Keyed.put key x members) := by
  induction members with
  | nil => simp [Keyed.put, NormalMembers, value]
  | cons m rest ih =>
    obtain ⟨k, y⟩ := m
    simp only [NormalMembers] at normal
    by_cases h : k = key
    · simp [Keyed.put, h, NormalMembers, value, normal.2]
    · simp [Keyed.put, h, NormalMembers, normal.1, ih normal.2]

theorem normalMembers_ofWrites {writes : List (String × Json)} (h : NormalMembers writes) :
    NormalMembers (Keyed.ofWrites writes) := by
  suffices go : ∀ (writes entries : List (String × Json)), NormalMembers writes →
      NormalMembers entries → NormalMembers
        (writes.foldl (fun entries (key, value) => Keyed.put key value entries) entries) from
    go writes [] h trivial
  intro writes
  induction writes with
  | nil => exact fun _ _ entries => entries
  | cons w rest ih =>
    intro entries left right
    obtain ⟨k, y⟩ := w
    simp only [NormalMembers] at left
    exact ih _ left.2 (normalMembers_put left.1 right)

mutual

theorem normal_normalized : (json : Json) → Normal (normalized json)
  | null | bool _ | integer _ | string _ => by simp [normalized, Normal]
  | number x => by
    rw [normalized]
    split
    · assumption
    · trivial
  | array items => by simpa [normalized, Normal] using normal_normalizedItems items
  | object members => by
    rw [normalized, Normal]
    exact ⟨Keyed.nodup_keys_ofWrites _, normalMembers_ofWrites (normal_normalizedMembers members)⟩

theorem normal_normalizedItems : (items : List Json) → NormalItems (normalizedItems items)
  | [] => trivial
  | x :: xs => ⟨normal_normalized x, normal_normalizedItems xs⟩

theorem normal_normalizedMembers :
    (members : List (String × Json)) → NormalMembers (normalizedMembers members)
  | [] => trivial
  | (_, x) :: xs => ⟨normal_normalized x, normal_normalizedMembers xs⟩

end

open BoundSql.Text

/-- A character inside a string of a document; only what must be escaped is. -/
def escaped (c : Char) : List Char :=
  if c = '"' then ['\\', '"']
  else if c = '\\' then ['\\', '\\']
  else if c = '\x08' then ['\\', 'b']
  else if c = '\x0c' then ['\\', 'f']
  else if c = '\n' then ['\\', 'n']
  else if c = '\r' then ['\\', 'r']
  else if c = '\t' then ['\\', 't']
  else if c.toNat < 0x20 then '\\' :: 'u' :: hexDigits 4 c.toNat
  else [c]

def stringText (s : String) : String := String.ofList ('"' :: s.toList.flatMap escaped ++ ['"'])

/-- A number that no document can hold is written as `null`. -/
def numberText (x : Floating.Double) : String := x.documentText?.getD "null"

mutual

def text : Json → String
  | null => "null"
  | bool b => boolean b
  | integer n => String.ofList (Text.integer n)
  | number x => numberText x
  | string s => stringText s
  | array items => "[" ++ String.intercalate "," (itemTexts items) ++ "]"
  | object members => "\x7b" ++ String.intercalate "," (memberTexts members) ++ "\x7d"

def itemTexts : List Json → List String
  | [] => []
  | x :: xs => text x :: itemTexts xs

def memberTexts : List (String × Json) → List String
  | [] => []
  | (key, x) :: xs => (stringText key ++ ":" ++ text x) :: memberTexts xs

end

mutual

def described : Json → String
  | null => "Null"
  | bool b => variant "Bool" (boolean b)
  | integer n => variant "Number" (String.ofList (Text.integer n))
  | number x => variant "Number" (numberText x)
  | string s => variant "String" (quoted s)
  | array items => "Array " ++ bracketed (itemsDescribed items)
  | object members => "Object " ++ mapping (membersDescribed members)

def itemsDescribed : List Json → List String
  | [] => []
  | x :: xs => described x :: itemsDescribed xs

def membersDescribed : List (String × Json) → List (String × String)
  | [] => []
  | (key, x) :: xs => (key, described x) :: membersDescribed xs

end

end Json

/-- A tree in normal form. -/
structure Document where
  json : Json
  normal : json.Normal

namespace Document

def ofJson (json : Json) : Document := ⟨json.normalized, json.normal_normalized⟩

def same (a b : Document) : Bool := a.json.same b.json

end Document
end BoundSql
