import ScopedShell.Moment
import ScopedShell.Number

/-!
# Data

The values that a document holds or that are given as settings: scalars, lists, and mappings, whose
entries keep the order in which their keys came first. Keys are equal as values: a truth value
equals the number one or zero, and an integer equals the double that has its value.
-/

namespace ScopedShell

inductive Data
  | null
  | flag (value : Bool)
  | number (value : Number)
  | text (value : Text)
  | moment (value : Moment)
  | list (items : List Data)
  | mapping (entries : List (Data × Data))

instance : Inhabited Data := ⟨.null⟩

namespace Number

def integer? : Number → Option Int
  | integer n => some n
  | real x =>
    let bits := x.toBits.toNat
    let magnitude := bits % Nat.pow 2 63
    if Decimal.infinityBits ≤ magnitude then none
    else
      let b := binaryOfBits magnitude
      let r := Decimal.Ratio.scale ⟨b.significand, 1⟩ 2 b.exponent
      if r.numerator % r.denominator = 0 then
        some (if bits / Nat.pow 2 63 = 1 then -Int.ofNat r.floor else Int.ofNat r.floor)
      else none

/-- Whether two numbers have the same value; there is one value that is no number. -/
def equals (m n : Number) : Bool :=
  match m.integer?, n.integer? with
  | some i, some j => i == j
  | none, none =>
    match m, n with
    | real x, real y => x.toBits == y.toBits
    | _, _ => false
  | _, _ => false

end Number

namespace Data

def keyNumber? : Data → Option Number
  | flag b => some (.integer (if b then 1 else 0))
  | number n => some n
  | _ => none

/-- Whether two keys are the same key; lists and mappings are no keys. -/
def sameKey (a b : Data) : Bool :=
  match a.keyNumber?, b.keyNumber? with
  | some m, some n => m.equals n
  | none, none =>
    match a, b with
    | null, null => true
    | text s, text t => s == t
    | moment m, moment n => m.same n
    | _, _ => false
  | _, _ => false

/-- Gives a key a value: the value of an equal key is replaced, a new key goes last. -/
def put (key value : Data) : List (Data × Data) → List (Data × Data)
  | [] => [(key, value)]
  | entry :: rest =>
    if entry.1.sameKey key then (entry.1, value) :: rest else entry :: put key value rest

def putField (name : Text) (value : Data) (entries : List (Data × Data)) : List (Data × Data) :=
  put (text name) value entries

def field? (name : Text) (entries : List (Data × Data)) : Option Data :=
  (entries.find? fun entry => entry.1.sameKey (text name)).map Prod.snd

end Data

end ScopedShell
