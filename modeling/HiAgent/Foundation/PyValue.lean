/-
  Foundation/PyValue.lean --- the values of a Python program.

  What built-in operations make of a value: its truth, `==`, `int()`, `str()`,
  `json.dumps` and the binding of a value to a column of a SQL statement. Each
  is a function into the class of exception it may raise.
-/
import HiAgent.Foundation.Fallible
import HiAgent.Foundation.Text
import Mathlib.Algebra.Ring.Int.Defs
import Mathlib.Algebra.Ring.Nat
import Mathlib.Data.List.Sort

namespace HiAgent.Foundation

/-- The class of an exception raised by a built-in operation or by `sqlite3`. -/
inductive Raised where
  | typeError
  | valueError
  | overflowError
  /-- `sqlite3.ProgrammingError`: a parameter of an unsupported type. -/
  | bindingError
  /-- `sqlite3.IntegrityError`. -/
  | integrityError
  /-- `sqlite3.OperationalError`. -/
  | operationalError
  deriving DecidableEq

/-- A `float`. -/
structure PyFloat where
  /-- `repr()`, the shortest text that reads back as this number. -/
  repr : String
  /-- What SQLite stores in a `TEXT` column: nothing for `nan`. -/
  column : Option String
  column_ne : column ≠ some ""
  /-- The number, when it is one. -/
  value : Option Rat
  deriving DecidableEq

/-- A value. -/
inductive PyValue where
  | none
  | bool (value : Bool)
  | int (value : Int)
  | float (value : PyFloat)
  | str (value : String)
  | list (items : List PyValue)
  | dict (fields : List (String × PyValue))
  | other (identity : Nat) (truth : Bool)

abbrev PyDict := List (String × PyValue)

namespace PyDict

/-- `d.get(key, default)`. -/
def get (d : PyDict) (key : String) (default : PyValue) : PyValue :=
  (d.lookup key).getD default

/-- `{k: v for k, v in d.items() if k != key}`. -/
def without (d : PyDict) (key : String) : PyDict :=
  d.filter fun field => field.1 != key

/-- `d[key] = value`. -/
def set (d : PyDict) (key : String) (value : PyValue) : PyDict :=
  if d.any fun field => field.1 == key then
    d.map fun field => if field.1 == key then (key, value) else field
  else d ++ [(key, value)]

end PyDict

namespace PyValue

/-! ## Truth and equality -/

/-- `bool(value)`. -/
def truthy : PyValue → Bool
  | none => false
  | bool value => value
  | int value => value != 0
  | float value => value.value != some 0
  | str value => value != ""
  | list items => !items.isEmpty
  | dict fields => !fields.isEmpty
  | other _ truth => truth

/-- The number a value is compared as. -/
def number : PyValue → Option Rat
  | bool value => some (if value then 1 else 0)
  | int value => some value
  | float value => value.value
  | _ => Option.none

mutual

/-- `left == right`. Numbers of different types are compared by value, and the
order of the fields of a dictionary does not count. -/
def eq : PyValue → PyValue → Bool
  | none, none => true
  | str left, str right => left == right
  | list left, list right => eqItems left right
  | dict left, dict right => left.length == right.length && eqFields left right
  | other left _, other right _ => left == right
  | float left, float right =>
    -- `nan` differs from itself, the infinities do not
    if left.value.isSome || left.repr == "nan" then
      left.value.isSome && left.value == right.value
    else right.value.isNone && left.repr == right.repr
  | left, right =>
    match left.number, right.number with
    | some left, some right => left == right
    | _, _ => false

/-- `==`, item by item. -/
def eqItems : List PyValue → List PyValue → Bool
  | [], [] => true
  | left :: lefts, right :: rights => eq left right && eqItems lefts rights
  | _, _ => false

/-- Every field on the left has an equal one on the right. -/
def eqFields : List (String × PyValue) → List (String × PyValue) → Bool
  | [], _ => true
  | (key, left) :: lefts, rights =>
    (match rights.lookup key with
      | some right => eq left right
      | Option.none => false) && eqFields lefts rights

end

/-! ## Conversions -/

/-- The code points of the digits zero of Unicode: nine more digits follow each. -/
def digitZeros : List Nat :=
  [0x30, 0x660, 0x6f0, 0x7c0, 0x966, 0x9e6, 0xa66, 0xae6, 0xb66, 0xbe6, 0xc66,
    0xce6, 0xd66, 0xde6, 0xe50, 0xed0, 0xf20, 0x1040, 0x1090, 0x17e0, 0x1810,
    0x1946, 0x19d0, 0x1a80, 0x1a90, 0x1b50, 0x1bb0, 0x1c40, 0x1c50, 0xa620, 0xa8d0,
    0xa900, 0xa9d0, 0xa9f0, 0xaa50, 0xabf0, 0xff10, 0x104a0, 0x10d30, 0x11066,
    0x110f0, 0x11136, 0x111d0, 0x112f0, 0x11450, 0x114d0, 0x11650, 0x116c0, 0x11730,
    0x118e0, 0x11950, 0x11c50, 0x11d50, 0x11da0, 0x16a60, 0x16ac0, 0x16b50, 0x1d7ce,
    0x1d7d8, 0x1d7e2, 0x1d7ec, 0x1d7f6, 0x1e140, 0x1e2f0, 0x1e950, 0x1fbf0]

def digit (c : Char) : Option Nat :=
  (digitZeros.find? fun start => start ≤ c.toNat && c.toNat < start + 10).map (c.toNat - ·)

/-- The number written by the digits that follow a first one; single underscores
may stand between digits. -/
def digitsAfter (number : Nat) : List Char → Option Nat
  | [] => some number
  | '_' :: c :: rest =>
    match digit c with
    | some next => digitsAfter (10 * number + next) rest
    | Option.none => Option.none
  | c :: rest =>
    match digit c with
    | some next => digitsAfter (10 * number + next) rest
    | Option.none => Option.none

def digits : List Char → Option Nat
  | [] => Option.none
  | c :: rest => (digit c).bind fun first => digitsAfter first rest

/-- `sys.int_info.default_max_str_digits`. -/
def maxStrDigits : Nat := 4300

/-- `int(text)`. -/
def intOfText (text : String) : Except Raised Int :=
  let written : List Char := (Text.strip text).toList
  let parsed : Option Int :=
    match written with
    | '+' :: rest => (digits rest).map (·)
    | '-' :: rest => (digits rest).map (-·)
    | rest => (digits rest).map (·)
  if (written.filter fun c => (digit c).isSome).length > maxStrDigits then
    .error .valueError
  else
    match parsed with
    | some value => .ok value
    | Option.none => .error .valueError

/-- `int(value)`. -/
def toInt : PyValue → Except Raised Int
  | bool value => .ok (if value then 1 else 0)
  | int value => .ok value
  | float value =>
    match value.value with
    | some value => .ok (value.num.tdiv value.den)
    | Option.none =>
      .error (if value.repr == "nan" then .valueError else .overflowError)
  | str value => intOfText value
  | _ => .error .typeError

/-- The decimal text of an `int`. -/
def printInt (value : Int) : Except Raised String :=
  if value.natAbs < 10 ^ maxStrDigits then .ok (toString value)
  else .error .valueError

/-- `str(value)`, given how the class of any other value prints it. -/
def print (repr : PyValue → Except Raised String) : PyValue → Except Raised String
  | none => .ok "None"
  | bool value => .ok (if value then "True" else "False")
  | int value => printInt value
  | float value => .ok value.repr
  | str value => .ok value
  | value => repr value

/-! ## JSON -/

/-- Four hexadecimal digits. -/
def hex4 (n : Nat) : String :=
  let digit (k : Nat) : Char :=
    Char.ofNat (if k < 10 then 48 + k else 87 + k)
  String.ofList
    [digit (n / 4096 % 16), digit (n / 256 % 16), digit (n / 16 % 16), digit (n % 16)]

/-- A character inside a JSON string, with `ensure_ascii`. -/
def escape (c : Char) : String :=
  let n := c.toNat
  if n = 34 then "\\\""
  else if n = 92 then "\\\\"
  else if n = 10 then "\\n"
  else if n = 13 then "\\r"
  else if n = 9 then "\\t"
  else if n = 12 then "\\f"
  else if n = 8 then "\\b"
  else if 32 ≤ n ∧ n ≤ 126 then c.toString
  else if n < 0x10000 then "\\u" ++ hex4 n
  else
    -- a surrogate pair
    "\\u" ++ hex4 (0xd800 + (n - 0x10000) / 1024) ++ "\\u" ++ hex4 (0xdc00 + (n - 0x10000) % 1024)

def quote (text : String) : String :=
  "\"" ++ String.join (text.toList.map escape) ++ "\""

/-- The JSON text of a `float`: the literals that are no numbers included. -/
def dumpsFloat (value : PyFloat) : String :=
  if value.value.isSome then value.repr
  else if value.repr == "nan" then "NaN"
  else if value.repr == "inf" then "Infinity"
  else "-Infinity"

mutual

/-- `json.dumps(value, sort_keys=sortKeys)`. -/
def dumps (sortKeys : Bool) : PyValue → Except Raised String
  | none => .ok "null"
  | bool value => .ok (if value then "true" else "false")
  | int value => printInt value
  | float value => .ok (dumpsFloat value)
  | str value => .ok (quote value)
  | list items =>
    (dumpsItems sortKeys items).map fun items =>
      "[" ++ ", ".intercalate items ++ "]"
  | dict fields =>
    (dumpsFields sortKeys fields).map fun fields =>
      let fields :=
        if sortKeys then
          fields.insertionSort fun left right => left.1 ≤ right.1
        else fields
      "\x7b" ++ ", ".intercalate (fields.map fun field =>
        quote field.1 ++ ": " ++ field.2) ++ "\x7d"
  | other _ _ => .error .typeError

/-- The JSON texts of the items of a list. -/
def dumpsItems (sortKeys : Bool) : List PyValue → Except Raised (List String)
  | [] => .ok []
  | item :: items =>
    (dumps sortKeys item).bind fun text =>
      (dumpsItems sortKeys items).map (text :: ·)

/-- The JSON texts of the fields of a dictionary. -/
def dumpsFields (sortKeys : Bool) : List (String × PyValue) → Except Raised (List (String × String))
  | [] => .ok []
  | (key, value) :: fields =>
    (dumps sortKeys value).bind fun text =>
      (dumpsFields sortKeys fields).map ((key, text) :: ·)

end

mutual

/-- What `json.loads` reads from `json.dumps(value, sort_keys=sortKeys)`. -/
def reread (sortKeys : Bool) : PyValue → Except Raised PyValue
  | none => .ok none
  | bool value => .ok (bool value)
  | int value => (printInt value).map fun _ => int value
  | float value => .ok (float value)
  | str value => .ok (str value)
  | list items => (rereadItems sortKeys items).map list
  | dict fields =>
    (rereadFields sortKeys fields).map fun fields =>
      dict (if sortKeys then
        fields.insertionSort fun left right => left.1 ≤ right.1
      else fields)
  | other _ _ => .error .typeError

/-- What is read of the items of a list. -/
def rereadItems (sortKeys : Bool) : List PyValue → Except Raised (List PyValue)
  | [] => .ok []
  | item :: items =>
    (reread sortKeys item).bind fun item =>
      (rereadItems sortKeys items).map (item :: ·)

/-- What is read of the fields of a dictionary, in the order they are given. -/
def rereadFields (sortKeys : Bool) : PyDict → Except Raised PyDict
  | [] => .ok []
  | (key, value) :: fields =>
    (reread sortKeys value).bind fun value =>
      (rereadFields sortKeys fields).map ((key, value) :: ·)

end

theorem succeeds_dumps_dict_iff {sortKeys : Bool} {fields : PyDict} :
    Succeeds (dumps sortKeys (.dict fields)) ↔
      ∀ field ∈ fields, Succeeds (dumps sortKeys field.2) := by
  rw [dumps, succeeds_map_iff]
  induction fields with
  | nil => simp [dumpsFields]
  | cons field fields ih =>
    obtain ⟨key, value⟩ := field
    simp only [dumpsFields, succeeds_bind_iff, succeeds_map_iff, ih, List.forall_mem_cons]
    constructor
    · rintro ⟨text, htext, hrest⟩
      exact ⟨⟨text, htext⟩, hrest⟩
    · rintro ⟨⟨text, htext⟩, hrest⟩
      exact ⟨text, htext, hrest⟩

/-! ## Columns -/

/-- What fits in a SQLite `INTEGER`. -/
def integerColumn (value : Int) : Except Raised Int :=
  if -2 ^ 63 ≤ value ∧ value < 2 ^ 63 then .ok value else .error .overflowError

/-- A parameter bound to a `TEXT` column: `NULL` is `none`. -/
def textColumn : PyValue → Except Raised (Option String)
  | none => .ok Option.none
  | bool value => .ok (some (if value then "1" else "0"))
  | int value => (integerColumn value).map fun value => some (toString value)
  | float value => .ok value.column
  | str value => .ok (some value)
  | _ => .error .bindingError

/-- What a `NOT NULL` column makes of a bound parameter. -/
def notNull : Option String → Except Raised String
  | some text => .ok text
  | Option.none => .error .integrityError

theorem toString_int_ne (value : Int) : toString value ≠ "" := by
  cases value with
  | ofNat n => exact Nat.repr_ne_empty
  | negSucc n =>
    intro h
    have hlength := congrArg String.length h
    simp [toString, Int.repr] at hlength

theorem textColumn_ne_empty {value : PyValue} (h : value.truthy = true) :
    textColumn value ≠ .ok (some "") := by
  cases value with
  | none => simp [truthy] at h
  | bool value =>
    have htrue : value = true := h
    subst htrue
    simp [textColumn]
  | int value =>
    intro hcolumn
    simp only [textColumn, integerColumn] at hcolumn
    split at hcolumn
    · exact toString_int_ne value (Option.some.inj (Except.ok.inj hcolumn))
    · cases hcolumn
  | float value =>
    intro hcolumn
    exact value.column_ne (Except.ok.inj hcolumn)
  | str value =>
    intro hcolumn
    obtain rfl := Option.some.inj (Except.ok.inj hcolumn)
    simp [truthy] at h
  | _ => simp [textColumn]

open List

mutual

/-- What `json.loads` reads from `json.dumps(value, default=str)`. -/
def copied (str : Nat → String) : PyValue → Except Raised PyValue
  | none => .ok none
  | bool value => .ok (bool value)
  | int value => (printInt value).map fun _ => int value
  | float value => .ok (float value)
  | .str value => .ok (.str value)
  | list items => (copiedItems str items).map list
  | dict fields => (copiedFields str fields).map dict
  | other identity _ => .ok (.str (str identity))

def copiedItems (str : Nat → String) : List PyValue → Except Raised (List PyValue)
  | [] => .ok []
  | item :: items =>
    (copied str item).bind fun item => (copiedItems str items).map (item :: ·)

def copiedFields (str : Nat → String) : PyDict → Except Raised PyDict
  | [] => .ok []
  | (key, value) :: fields =>
    (copied str value).bind fun value => (copiedFields str fields).map ((key, value) :: ·)

end

mutual

/-- Every part of the value has a JSON form of its own, and its integers are not too long. -/
def Plain : PyValue → Prop
  | int value => value.natAbs < 10 ^ maxStrDigits
  | list items => PlainItems items
  | dict fields => PlainFields fields
  | other _ _ => False
  | _ => True

def PlainItems : List PyValue → Prop
  | [] => True
  | item :: items => Plain item ∧ PlainItems items

def PlainFields : PyDict → Prop
  | [] => True
  | (_, value) :: fields => Plain value ∧ PlainFields fields

end

theorem printInt_map_eq_ok_iff {value : Int} {v : PyValue} :
    (printInt value).map (fun _ => int value) = .ok v ↔
      value.natAbs < 10 ^ maxStrDigits ∧ v = int value := by
  unfold printInt
  split
  · rename_i h
    rw [and_iff_right h, Except.map, Except.ok.injEq, eq_comm]
  · rename_i h
    refine iff_of_false (fun hread => ?_) fun hplain => h hplain.1
    cases hread

mutual

/-- Plain values are copied as they are. -/
theorem copied_eq_iff (str : Nat → String) (value : PyValue) :
    copied str value = .ok value ↔ Plain value := by
  cases value with
  | int value => rw [copied, Plain, printInt_map_eq_ok_iff, and_iff_left rfl]
  | list items =>
    rw [copied, Plain, map_eq_ok_iff, ← copiedItems_eq_iff str items]
    simp
  | dict fields =>
    rw [copied, Plain, map_eq_ok_iff, ← copiedFields_eq_iff str fields]
    simp
  | _ => simp [copied, Plain]

theorem copiedItems_eq_iff (str : Nat → String) (items : List PyValue) :
    copiedItems str items = .ok items ↔ PlainItems items := by
  cases items with
  | nil => simp [copiedItems, PlainItems]
  | cons item items =>
    rw [copiedItems, PlainItems, bind_eq_ok_iff, ← copied_eq_iff str item,
      ← copiedItems_eq_iff str items]
    simp [map_eq_ok_iff]

theorem copiedFields_eq_iff (str : Nat → String) (fields : PyDict) :
    copiedFields str fields = .ok fields ↔ PlainFields fields := by
  match fields with
  | [] => simp [copiedFields, PlainFields]
  | (key, value) :: fields =>
    rw [copiedFields, PlainFields, bind_eq_ok_iff, ← copied_eq_iff str value,
      ← copiedFields_eq_iff str fields]
    simp [map_eq_ok_iff]

end

mutual

variable {str : Nat → String}

theorem plain_of_copied {value read : PyValue} (h : copied str value = .ok read) : Plain read := by
  cases value with
  | int value =>
    rw [copied, printInt_map_eq_ok_iff] at h
    rw [h.2]
    exact h.1
  | list items =>
    rw [copied, map_eq_ok_iff] at h
    obtain ⟨items', hitems, rfl⟩ := h
    exact plain_of_copiedItems hitems
  | dict fields =>
    rw [copied, map_eq_ok_iff] at h
    obtain ⟨fields', hfields, rfl⟩ := h
    exact plain_of_copiedFields hfields
  | _ =>
    rw [copied] at h
    rw [← Except.ok.inj h]
    trivial

theorem plain_of_copiedItems {items read : List PyValue}
    (h : copiedItems str items = .ok read) : PlainItems read := by
  cases items with
  | nil =>
    rw [copiedItems] at h
    rw [← Except.ok.inj h]
    trivial
  | cons item items =>
    rw [copiedItems, bind_eq_ok_iff] at h
    obtain ⟨first, hfirst, hrest⟩ := h
    obtain ⟨rest, hread, rfl⟩ := map_eq_ok_iff.mp hrest
    exact ⟨plain_of_copied hfirst, plain_of_copiedItems hread⟩

theorem plain_of_copiedFields {fields read : PyDict}
    (h : copiedFields str fields = .ok read) : PlainFields read := by
  match fields with
  | [] =>
    rw [copiedFields] at h
    rw [← Except.ok.inj h]
    trivial
  | (key, value) :: fields =>
    rw [copiedFields, bind_eq_ok_iff] at h
    obtain ⟨first, hfirst, hrest⟩ := h
    obtain ⟨rest, hread, rfl⟩ := map_eq_ok_iff.mp hrest
    exact ⟨plain_of_copied hfirst, plain_of_copiedFields hread⟩

end

theorem plainItems_iff {items : List PyValue} : PlainItems items ↔ ∀ item ∈ items, Plain item := by
  induction items with
  | nil => simp [PlainItems]
  | cons item items ih => rw [PlainItems, ih, forall_mem_cons]

theorem plainFields_iff {fields : PyDict} :
    PlainFields fields ↔ ∀ field ∈ fields, Plain field.2 := by
  induction fields with
  | nil => simp [PlainFields]
  | cons field fields ih => rw [PlainFields, ih, forall_mem_cons]

theorem plainFields_set_iff {fields : PyDict} {key : String} {value : PyValue}
    (h : PlainFields fields) : PlainFields (fields.set key value) ↔ Plain value := by
  rw [plainFields_iff] at h ⊢
  rw [PyDict.set]
  split
  · rename_i hany
    obtain ⟨old, hold, hkey⟩ := any_eq_true.mp hany
    constructor
    · intro hall
      refine hall (key, value) (mem_map.mpr ⟨old, hold, ?_⟩)
      rw [if_pos hkey]
    · intro hvalue field hfield
      obtain ⟨other, hother, rfl⟩ := mem_map.mp hfield
      split
      · exact hvalue
      · exact h other hother
  · constructor
    · exact fun hall => hall (key, value) (mem_append_right _ (mem_singleton_self _))
    · intro hvalue field hfield
      rcases mem_append.mp hfield with hold | hnew
      · exact h field hold
      · rw [mem_singleton.mp hnew]
        exact hvalue

end PyValue

end HiAgent.Foundation
