/-
Messages.

A message is a template with its directives replaced by arguments in order.  A single
argument that is a mapping with members is looked into by name instead.  A template without
arguments is the message itself, percent signs and all.
-/
import Storefront.Log.Template
import Storefront.Log.Value

namespace Storefront.Log

open Number

/-! ### What can go wrong -/

/-- Why a template and its arguments do not make a message. -/
inductive TemplateError where
  | tooFew
  | tooMany
  /-- A directive names a member and there is no mapping. -/
  | noMapping
  | unclosedName
  | noMember (name : RawText)
  /-- A width or a precision that is taken is no integer. -/
  | amountKind
  | widthRange
  | precisionRange
  | widthExcessive
  | precisionExcessive
  /-- An integer is asked for with more digits than are counted. -/
  | digitsExcessive
  /-- An integer has more digits than are written. -/
  | digits
  | notNumber (letter : Char) (kind : String)
  | notInteger (letter : Char) (kind : String)
  | notReal (kind : String)
  | realRange
  | infinite
  | notANumber
  | notPoint
  | pointRange
  | incomplete
  | unsupported (p : CodePoint) (index : Nat)
  deriving DecidableEq, Repr

/-- How a code point is named in what is said about it. -/
def namedPoint (p : CodePoint) : String :=
  match p with
  | .char c => if 31 ≤ c.toNat ∧ c.toNat ≤ 126 then String.singleton c else "?"
  | .surrogate _ => "?"

/-- What is said of a template that makes no message. -/
def TemplateError.message : TemplateError → String
  | tooFew => "not enough arguments for format string"
  | tooMany => "not all arguments converted during string formatting"
  | noMapping => "format requires a mapping"
  | unclosedName => "incomplete format key"
  | noMember name => Text.quoted name
  | amountKind => "* wants int"
  | widthRange => "Python int too large to convert to C ssize_t"
  | precisionRange => "Python int too large to convert to C int"
  | widthExcessive => "width too big"
  | precisionExcessive => "precision too big"
  | digitsExcessive => "precision too large"
  | digits => Text.unspelledMessage
  | notNumber letter kind =>
    "%" ++ String.singleton letter ++ " format: a real number is required, not " ++ kind
  | notInteger letter kind =>
    "%" ++ String.singleton letter ++ " format: an integer is required, not " ++ kind
  | notReal kind => "must be real number, not " ++ kind
  | realRange => "int too large to convert to float"
  | infinite => "cannot convert float infinity to integer"
  | notANumber => "cannot convert float NaN to integer"
  | notPoint => "%c requires int or char"
  | pointRange => "%c arg not in range(0x110000)"
  | incomplete => "incomplete format"
  | unsupported p index =>
    "unsupported format character '" ++ namedPoint p ++ "' (0x" ++
      String.ofList (Nat.toDigits 16 p.value) ++ ") at index " ++ toString index

/-! ### Arguments as numbers -/

namespace Value

/-- The integer that a value counts as. -/
def count? : Value → Option Int
  | number n => some n
  | flag b => some (if b then 1 else 0)
  | _ => none

/-- The integer part of a value, for a directive with a letter. -/
def integerPart (letter : Char) (v : Value) : Except TemplateError Int :=
  match v with
  | number n => .ok n
  | flag b => .ok (if b then 1 else 0)
  | id u => .ok u.value
  | real x =>
    match x.truncate? with
    | some n => .ok n
    | none => .error (if x = .nan then .notANumber else .infinite)
  | v => .error (.notNumber letter v.kind)

/-- The integer that a value is, for a directive with a letter. -/
def integer (letter : Char) (v : Value) : Except TemplateError Int :=
  match v.count? with
  | some n => .ok n
  | none => .error (.notInteger letter v.kind)

/-- The fractional number that a value is. -/
def realNumber (v : Value) : Except TemplateError Binary64 :=
  match v with
  | real x => .ok x
  | v =>
    match v.count? with
    | none => .error (.notReal v.kind)
    | some n =>
      let x := Binary64.ofInt n
      if x.isFinite then .ok x else .error .realRange

/-- The code point that a value is or numbers. -/
def codePoint (v : Value) : Except TemplateError CodePoint :=
  match v with
  | text [p] => .ok p
  | v =>
    match v.count? with
    | none => .error .notPoint
    | some (.ofNat n) => (CodePoint.ofNat? n).elim (.error .pointRange) .ok
    | some (.negSucc _) => .error .pointRange

end Value

/-! ### Fields -/

/-- The most digits of an integer that are counted. -/
def maxDigits : Nat := 0x7FFFFFFC

/-- More significant digits than any finite value has. -/
def allDigits : Nat := 1100

/-- A text with blanks up to a width. -/
def padded (flags : Flags) (width : Nat) (t : RawText) : RawText :=
  let blanks := List.replicate (width - t.length) (CodePoint.char ' ')
  if flags.left then t ++ blanks else blanks ++ t

/-- The sign of a number that is negative or is not. -/
def signText (flags : Flags) (negative : Bool) : List Char :=
  if negative then ['-'] else if flags.plus then ['+'] else if flags.blank then [' '] else []

/-- A number with its sign and the mark of its base, up to a width. -/
def paddedNumber (flags : Flags) (width : Nat) (negative : Bool) (mark digits : List Char) :
    RawText :=
  let front := signText flags negative ++ mark
  let zeros :=
    if flags.zeros && !flags.left then
      List.replicate (width - (front.length + digits.length)) '0'
    else []
  padded flags width (RawText.ofChars (front ++ zeros ++ digits))

/-- The digits of an integer, at least as many as a precision asks for. -/
def integerDigits (base : Nat) (precision : Option Nat) (n : Int) : List Char :=
  let ds := Nat.toDigits base n.natAbs
  List.replicate (precision.getD 0 - ds.length) '0' ++ ds

/-- The field of an integer in a base, with the mark of that base.  Only in base ten are there
integers without a text. -/
def integerField (flags : Flags) (width : Nat) (precision : Option Nat) (base : Nat)
    (mark : List Char) (letters : LetterCase) (n : Int) : Except TemplateError RawText := do
  if maxDigits < precision.getD 0 then throw .digitsExcessive
  if base = 10 ∧ ¬Text.isSpelled n then throw .digits
  return paddedNumber flags width (n < 0) mark (letters.apply (integerDigits base precision n))

/-- The digits that are asked for in a layout; zeros at the end of a general one are dropped
unless the point is kept. -/
def askedDigits (flags : Flags) (precision : Option Nat) : RoundedLayout → Nat
  | .general => if flags.marked then precision.getD 6 else min (precision.getD 6) allDigits
  | _ => precision.getD 6

/-- The field of a fractional number. -/
def realField (flags : Flags) (width : Nat) (precision : Option Nat) (layout : RoundedLayout)
    (letters : LetterCase) (x : Binary64) : RawText :=
  paddedNumber flags width x.isNegative []
    (letters.apply (layout.text flags.marked (askedDigits flags precision layout) x))

/-- The mark of a base, if bases are to be marked. -/
def baseMark (flags : Flags) (letter : Char) : List Char :=
  if flags.marked then ['0', letter] else []

/-- The field of a value. -/
def field (flags : Flags) (width : Nat) (precision : Option Nat) (v : Value) :
    Conversion → Except TemplateError RawText
  | .shown => spelled v.shown
  | .inner => spelled v.inner
  | .innerAscii => spelled (Text.asciiOnly v.inner)
  | .decimal letter => do
    integerField flags width precision 10 [] .lower (← v.integerPart letter)
  | .octal => do
    integerField flags width precision 8 (baseMark flags 'o') .lower (← v.integer 'o')
  | .hex .lower => do
    integerField flags width precision 16 (baseMark flags 'x') .lower (← v.integer 'x')
  | .hex .upper => do
    integerField flags width precision 16 (baseMark flags 'X') .upper (← v.integer 'X')
  | .real layout letters => do
    return realField flags width precision layout letters (← v.realNumber)
  | .point => do return padded flags width [← v.codePoint]
where
  /-- The field of a text of the value, if the value has a text. -/
  spelled (t : RawText) : Except TemplateError RawText :=
    if v.isSpelled then .ok (padded flags width (cut t)) else .error .digits
  /-- A text with at most as many code points as the precision asks for. -/
  cut (t : RawText) : RawText :=
    match precision with
    | none => t
    | some n => t.take n

/-! ### Filling in -/

/-- The arguments that are left. -/
inductive Supply where
  | listed (rest : List Value)
  /-- A mapping, and the argument that was looked up in it or is the mapping itself, until
  it is used. -/
  | named (pairs : List (Key × Value)) (current : Option Value)

/-- The arguments of a template: a single mapping with members is looked into by name. -/
def Supply.ofArgs : List Value → Supply
  | [.mapping (p :: ps)] => named (p :: ps) (some (.mapping (p :: ps)))
  | args => listed args

/-- The next argument. -/
def Supply.take : Supply → Except TemplateError (Value × Supply)
  | listed (v :: vs) => .ok (v, listed vs)
  | named pairs (some v) => .ok (v, named pairs none)
  | _ => .error .tooFew

/-- The arguments once a directive has named a member. -/
def Supply.look (supply : Supply) : Option Naming → Except TemplateError Supply
  | none => .ok supply
  | some naming =>
    match supply, naming with
    | listed _, _ => .error .noMapping
    | named .., .unclosed => .error .unclosedName
    | named pairs _, .named key =>
      match Keyed.get? (.text key) pairs with
      | some v => .ok (named pairs (some v))
      | none => .error (.noMember key)

/-- The flags and the width of a directive; a negative width puts the blanks behind. -/
def Directive.layout (d : Directive) (supply : Supply) :
    Except TemplateError (Flags × Nat × Supply) :=
  match d.width with
  | none => .ok (d.flags, 0, supply)
  | some (.given n) => .ok (d.flags, n, supply)
  | some .excessive => .error .widthExcessive
  | some .taken => do
    let (v, supply) ← supply.take
    match v.count? with
    | none => .error .amountKind
    | some n =>
      if n < -(maxWidth : Int) - 1 ∨ (maxWidth : Int) < n then .error .widthRange
      else return ({ d.flags with left := d.flags.left || decide (n < 0) }, n.natAbs, supply)

/-- The precision of a directive; a negative one is none at all. -/
def Directive.places (d : Directive) (supply : Supply) :
    Except TemplateError (Option Nat × Supply) :=
  match d.precision with
  | none => .ok (none, supply)
  | some (.given n) => .ok (some n, supply)
  | some .excessive => .error .precisionExcessive
  | some .taken => do
    let (v, supply) ← supply.take
    match v.count? with
    | none => .error .amountKind
    | some n =>
      if n < -(maxPrecision : Int) - 1 ∨ (maxPrecision : Int) < n then .error .precisionRange
      else return (some n.toNat, supply)

/-- What stands for a directive, with the arguments after it. -/
def Directive.fill (d : Directive) (supply : Supply) : Except TemplateError (RawText × Supply) := do
  let supply ← supply.look d.naming
  let (flags, width, supply) ← d.layout supply
  let (precision, supply) ← d.places supply
  match d.ending with
  | .missing => .error .incomplete
  | .unsupported p index => do
    let _ ← supply.take
    .error (.unsupported p index)
  | .conversion c => do
    let (v, supply) ← supply.take
    return (← field flags width precision v c, supply)

/-- Whether arguments may be left over. -/
def Supply.mayEnd : Supply → Bool
  | listed [] | named .. => true
  | listed _ => false

/-- The rest of a message from the rest of its template. -/
def fill : List Piece → Supply → Except TemplateError RawText
  | [], supply => if supply.mayEnd then .ok [] else .error .tooMany
  | .literal p :: ps, supply => do return p :: (← fill ps supply)
  | .directive d :: ps, supply => do
    let (t, supply) ← d.fill supply
    return t ++ (← fill ps supply)

/-- The message of a template with its arguments. -/
def message (template : RawText) (args : List Value) : Except TemplateError RawText :=
  if args.isEmpty then .ok template else fill (pieces template) (.ofArgs args)

end Storefront.Log
