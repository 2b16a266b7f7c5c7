/-
Reading JSON.

The reader goes over the lexemes once with a stack of the arrays and objects that are
still open.  Each lexeme either moves it to one next position or refuses the text, so
reading ends on every input and there is one reading of each.  Whoever reads a text from
outside sets limits to the digits of an integer and to the depth of nesting.
-/
import Storefront.Json.Lexeme

namespace Storefront.Json

/-- What is read of a text from outside. -/
structure Limits where
  /-- The most digits of an integer. -/
  digits : Nat
  /-- The most arrays and objects inside one another. -/
  depth : Nat
  deriving DecidableEq, Repr

/-- The limits for every text that a customer sends. -/
def Limits.standard : Limits := ⟨Text.maxDigits, 970⟩

/-- What can hold other values. -/
inductive Container where
  | array
  | object
  deriving DecidableEq, Repr

/-- Why a text is not read. -/
inductive ReadError where
  /-- The text is not JSON. -/
  | malformed
  /-- An integer in the text has more digits than are read. -/
  | oversized
  /-- A container is inside more others than are read. -/
  | nested (c : Container)
  deriving DecidableEq, Repr

/-- An array or object that is still open; the items of an array are kept in reverse. -/
inductive Frame where
  | array (items : List Json)
  | object (members : Members) (key : RawText)

/-- What the reader has seen last and may meet next. -/
inductive Position where
  /-- A value is due; just after an opening bracket, the array may close instead. -/
  | value (mayClose : Bool)
  /-- A key is due; just after an opening brace, the object may close instead. -/
  | key (mayClose : Bool) (members : Members)
  | colon (members : Members) (key : RawText)
  | after (v : Json)

/-- A position with the open containers around it, the innermost first. -/
structure Reading where
  position : Position
  frames : List Frame

/-- Whether one more container may be opened inside some others. -/
def mayOpen (limits : Option Limits) (frames : List Frame) : Bool :=
  limits.all fun l => frames.length < l.depth

/-- One lexeme further. -/
def Reading.step (limits : Option Limits) (r : Reading) (l : Lexeme) : Except ReadError Reading :=
  match r.position, l, r.frames with
  | .value _, .atom v, fs => .ok ⟨.after v, fs⟩
  | .value _, .integer n size, fs =>
    if limits.all (size ≤ ·.digits) then .ok ⟨.after (.int n), fs⟩ else .error .oversized
  | .value _, .quoted s, fs => .ok ⟨.after (.text s), fs⟩
  | .value _, .openArray, fs =>
    if mayOpen limits fs then .ok ⟨.value true, .array [] :: fs⟩ else .error (.nested .array)
  | .value _, .openObject, fs =>
    if mayOpen limits fs then .ok ⟨.key true [], fs⟩ else .error (.nested .object)
  | .value true, .closeArray, .array items :: fs => .ok ⟨.after (.array items.reverse), fs⟩
  | .key _ ms, .quoted k, fs => .ok ⟨.colon ms k, fs⟩
  | .key true ms, .closeObject, fs => .ok ⟨.after (.object ms), fs⟩
  | .colon ms k, .colon, fs => .ok ⟨.value false, .object ms k :: fs⟩
  | .after v, .comma, .array items :: fs => .ok ⟨.value false, .array (v :: items) :: fs⟩
  | .after v, .comma, .object ms k :: fs => .ok ⟨.key false (Keyed.put k v ms), fs⟩
  | .after v, .closeArray, .array items :: fs =>
    .ok ⟨.after (.array (v :: items).reverse), fs⟩
  | .after v, .closeObject, .object ms k :: fs =>
    .ok ⟨.after (.object (Keyed.put k v ms)), fs⟩
  | _, _, _ => .error .malformed

/-- The reading after some lexemes. -/
def Reading.run (limits : Option Limits) (r : Reading) : List Lexeme → Except ReadError Reading
  | [] => .ok r
  | l :: ls =>
    match r.step limits l with
    | .ok r => r.run limits ls
    | .error e => .error e

/-- The value of a reading that is complete. -/
def Reading.finish : Reading → Except ReadError Json
  | ⟨.after v, []⟩ => .ok v
  | _ => .error .malformed

/-- The value that a text writes. -/
def read (limits : Option Limits) (t : RawText) : Except ReadError Json :=
  match Reading.run limits ⟨.value false, []⟩ (lexemes t) with
  | .ok r => r.finish
  | .error e => .error e

end Storefront.Json
