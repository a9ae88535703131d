import Bling.Library.Numerals

set_option autoImplicit false

namespace Library

/-! JSON texts (RFC 8259) as bytes: a scanner with a stack that reads a byte at a time, and
quoted strings, which are UTF-8. -/

/-! ### UTF-8 -/

def isTail (byte : UInt8) : Bool := 0x80 ≤ byte.toNat && byte.toNat ≤ 0xbf

/-- The length of the rune at the start, or 0 if its bytes are not valid. -/
def runeLen : List UInt8 → Nat
  | [] => 0
  | a :: rest =>
    let first := a.toNat
    if first < 0x80 then 1
    else match rest with
      | [] => 0
      | b :: rest =>
        let second := b.toNat
        if 0xc2 ≤ first ∧ first ≤ 0xdf then if isTail b then 2 else 0
        else match rest with
          | [] => 0
          | c :: rest =>
            if 0xe0 ≤ first ∧ first ≤ 0xef then
              if (if first = 0xe0 then 0xa0 else 0x80) ≤ second ∧
                  second ≤ (if first = 0xed then 0x9f else 0xbf) ∧ isTail c then 3 else 0
            else match rest with
              | [] => 0
              | d :: _ =>
                if 0xf0 ≤ first ∧ first ≤ 0xf4 ∧
                    (if first = 0xf0 then 0x90 else 0x80) ≤ second ∧
                    second ≤ (if first = 0xf4 then 0x8f else 0xbf) ∧ isTail c ∧ isTail d then 4
                else 0

/-- The runes of a text, an invalid byte being one by itself, after some bytes to skip. -/
def runesFrom : Nat → List UInt8 → List (List UInt8)
  | _, [] => []
  | skip + 1, _ :: rest => runesFrom skip rest
  | 0, byte :: rest =>
    let len := max 1 (runeLen (byte :: rest))
    (byte :: rest).take len :: runesFrom (len - 1) rest

def runes (text : List UInt8) : List (List UInt8) := runesFrom 0 text

/-- The runes of Unicode's white space. -/
def isWhiteSpace (rune : List UInt8) : Bool :=
  match rune with
  | [a] => (9 ≤ a.toNat && a.toNat ≤ 13) || a == 32
  | [0xc2, b] => b == 0x85 || b == 0xa0
  | [0xe1, b, c] => b == 0x9a && c == 0x80
  | [0xe2, b, c] =>
    (b == 0x80 && (c.toNat ≤ 0x8a || c == 0xa8 || c == 0xa9 || c == 0xaf)) ||
      (b == 0x81 && c == 0x9f)
  | [0xe3, b, c] => b == 0x80 && c == 0x80
  | _ => false

def trimSpace (text : List UInt8) : List UInt8 :=
  (((runes text).dropWhile isWhiteSpace).reverse.dropWhile isWhiteSpace).reverse.flatten

def encodeRune (rune : Nat) : List UInt8 :=
  (if rune < 0x80 then [rune]
    else if rune < 0x800 then [0xc0 + rune / 64, 0x80 + rune % 64]
    else if rune < 0x10000 then [0xe0 + rune / 4096, 0x80 + rune / 64 % 64, 0x80 + rune % 64]
    else [0xf0 + rune / 262144, 0x80 + rune / 4096 % 64, 0x80 + rune / 64 % 64,
      0x80 + rune % 64]).map UInt8.ofNat

def replacement : List UInt8 := [0xef, 0xbf, 0xbd]

namespace Json

/-! ### Strings -/

/-- In lower or upper case. -/
def hexValue (byte : UInt8) : Option Nat :=
  if 65 ≤ byte.toNat ∧ byte.toNat ≤ 70 then some (byte.toNat - 55) else hexDigit byte

def hex4 : List UInt8 → Option Nat
  | a :: b :: c :: d :: _ => do
    let a ← hexValue a
    let b ← hexValue b
    let c ← hexValue c
    let d ← hexValue d
    some (((a * 16 + b) * 16 + c) * 16 + d)
  | _ => none

/-- What follows `\u`, with the number of bytes it takes. Of surrogates only pairs stand for a
rune. -/
def unicodeEscape (rest : List UInt8) : List UInt8 × Nat :=
  match hex4 rest with
  | none => (replacement, 0)
  | some high =>
    if high < 0xd800 ∨ 0xe000 ≤ high then (encodeRune high, 4)
    else
      let low := if (rest.drop 4).take 2 = [92, 117] then hex4 (rest.drop 6) else none
      match low with
      | none => (replacement, 4)
      | some low =>
        if high < 0xdc00 ∧ 0xdc00 ≤ low ∧ low < 0xe000 then
          (encodeRune (0x10000 + (high - 0xd800) * 1024 + (low - 0xdc00)), 10)
        else (replacement, 4)

/-- What follows a backslash, with the number of bytes it takes. -/
def escape : List UInt8 → List UInt8 × Nat
  | [] => ([], 0)
  | byte :: rest =>
    if byte = 117 then ((unicodeEscape rest).1, (unicodeEscape rest).2 + 1)
    else if byte = 98 then ([8], 1)
    else if byte = 102 then ([12], 1)
    else if byte = 110 then ([10], 1)
    else if byte = 114 then ([13], 1)
    else if byte = 116 then ([9], 1)
    else ([byte], 1)

/-- The text between quotes, after some bytes to skip. Invalid UTF-8 is replaced. -/
def unquoteFrom : Nat → List UInt8 → List UInt8
  | _, [] => []
  | skip + 1, _ :: rest => unquoteFrom skip rest
  | 0, byte :: rest =>
    if byte = 92 then (escape rest).1 ++ unquoteFrom (escape rest).2 rest
    else
      let len := runeLen (byte :: rest)
      if len = 0 then replacement ++ unquoteFrom 0 rest
      else (byte :: rest).take len ++ unquoteFrom (len - 1) rest

def hexEscape (byte : UInt8) : List UInt8 :=
  [92, 117, 48, 48, hexByte (byte.toNat / 16), hexByte (byte.toNat % 16)]

/-- Bytes that stand for themselves, in HTML too. -/
def isPlain (byte : UInt8) : Bool :=
  0x20 ≤ byte.toNat && byte.toNat < 0x80 &&
    byte != 34 && byte != 92 && byte != 60 && byte != 62 && byte != 38

def quoteByte (byte : UInt8) : List UInt8 :=
  if isPlain byte then [byte]
  else if byte = 34 ∨ byte = 92 then [92, byte]
  else if byte = 8 then [92, 98]
  else if byte = 12 then [92, 102]
  else if byte = 10 then [92, 110]
  else if byte = 13 then [92, 114]
  else if byte = 9 then [92, 116]
  else hexEscape byte

def quoteFrom : Nat → List UInt8 → List UInt8
  | _, [] => []
  | skip + 1, _ :: rest => quoteFrom skip rest
  | 0, byte :: rest =>
    if byte.toNat < 0x80 then quoteByte byte ++ quoteFrom 0 rest
    else
      let rune := (byte :: rest).take (runeLen (byte :: rest))
      (if rune = [] then 92 :: ascii ['u', 'f', 'f', 'f', 'd']
        else if rune = [0xe2, 0x80, 0xa8] then 92 :: ascii ['u', '2', '0', '2', '8']
        else if rune = [0xe2, 0x80, 0xa9] then 92 :: ascii ['u', '2', '0', '2', '9']
        else rune) ++ quoteFrom (rune.length - 1) rest

def quote (text : List UInt8) : List UInt8 := [34] ++ quoteFrom 0 text ++ [34]

theorem plain_ne {byte : UInt8} (plain : isPlain byte = true) :
    byte ≠ 34 ∧ byte ≠ 92 ∧ 0x20 ≤ byte.toNat ∧ byte.toNat < 0x80 := by
  simp only [isPlain, Bool.and_eq_true, decide_eq_true_eq, bne_iff_ne] at plain
  exact ⟨plain.1.1.1.1.2, plain.1.1.1.2, plain.1.1.1.1.1.1, plain.1.1.1.1.1.2⟩

theorem quoteFrom_plain {text : List UInt8} (plain : text.all isPlain = true) :
    quoteFrom 0 text = text := by
  induction text with
  | nil => rfl
  | cons byte rest ih =>
      rw [List.all_cons, Bool.and_eq_true] at plain
      rw [quoteFrom, if_pos (plain_ne plain.1).2.2.2, quoteByte, if_pos plain.1, ih plain.2]
      rfl

theorem unquoteFrom_plain {text : List UInt8} (plain : text.all isPlain = true) :
    unquoteFrom 0 text = text := by
  induction text with
  | nil => rfl
  | cons byte rest ih =>
      rw [List.all_cons, Bool.and_eq_true] at plain
      obtain ⟨_, unescaped, _, small⟩ := plain_ne plain.1
      have one : runeLen (byte :: rest) = 1 := by
        unfold runeLen
        exact if_pos small
      rw [unquoteFrom, if_neg unescaped, one]
      simp [ih plain.2]

end Json

/-! ### Values -/

/-- Numbers keep their text, and strings what stands between the quotes. -/
inductive Json where
  | null
  | bool (value : Bool)
  | number (text : List UInt8)
  | string (raw : List UInt8)
  | array (items : List Json)
  | object (members : List (List UInt8 × Json))

namespace Json

/-- What an open bracket has so far. -/
inductive Frame where
  | key (members : List (List UInt8 × Json))
  | member (members : List (List UInt8 × Json)) (name : List UInt8)
  | array (items : List Json)

inductive Mode where
  | beginValue
  | beginValueOrEmpty
  | beginString
  | beginStringOrEmpty
  | endValue (value : Json)
  | inString (raw : List UInt8)
  | inEscape (raw : List UInt8)
  | inUnicode (raw : List UInt8) (left : Nat)
  | literal (rest : List UInt8) (value : Json)
  | neg (text : List UInt8)
  | zero (text : List UInt8)
  | digits (text : List UInt8)
  | dot (text : List UInt8)
  | fraction (text : List UInt8)
  | exp (text : List UInt8)
  | expSign (text : List UInt8)
  | exponent (text : List UInt8)

structure Scanner where
  stack : List Frame
  mode : Mode

def isSpace (byte : UInt8) : Bool := byte == 32 || byte == 9 || byte == 13 || byte == 10

def maxNestingDepth : Nat := 10000

def push (stack : List Frame) (frame : Frame) (mode : Mode) : Option Scanner :=
  if stack.length < maxNestingDepth then some ⟨frame :: stack, mode⟩ else none

def beginValue (stack : List Frame) (byte : UInt8) : Option Scanner :=
  if byte = 123 then push stack (.key []) .beginStringOrEmpty
  else if byte = 91 then push stack (.array []) .beginValueOrEmpty
  else if byte = 34 then some ⟨stack, .inString []⟩
  else if byte = 45 then some ⟨stack, .neg [byte]⟩
  else if byte = 48 then some ⟨stack, .zero [byte]⟩
  else if isDigit byte then some ⟨stack, .digits [byte]⟩
  else if byte = 116 then some ⟨stack, .literal (ascii ['r', 'u', 'e']) (.bool true)⟩
  else if byte = 102 then some ⟨stack, .literal (ascii ['a', 'l', 's', 'e']) (.bool false)⟩
  else if byte = 110 then some ⟨stack, .literal (ascii ['u', 'l', 'l']) .null⟩
  else none

/-- What may come after a value depends on the bracket it is in. -/
def endValue (stack : List Frame) (value : Json) (byte : UInt8) : Option Scanner :=
  if isSpace byte then some ⟨stack, .endValue value⟩
  else match stack with
    | [] => none
    | .key members :: rest =>
      match value with
      | .string raw =>
        if byte = 58 then some ⟨.member members (unquoteFrom 0 raw) :: rest, .beginValue⟩ else none
      | _ => none
    | .member members name :: rest =>
      if byte = 44 then some ⟨.key (members ++ [(name, value)]) :: rest, .beginString⟩
      else if byte = 125 then some ⟨rest, .endValue (.object (members ++ [(name, value)]))⟩
      else none
    | .array items :: rest =>
      if byte = 44 then some ⟨.array (items ++ [value]) :: rest, .beginValue⟩
      else if byte = 93 then some ⟨rest, .endValue (.array (items ++ [value]))⟩
      else none

/-- A number ends where something else begins. -/
def inNumber (stack : List Frame) (text : List UInt8) (byte : UInt8) (dot exp : Bool) :
    Option Scanner :=
  if dot ∧ byte = 46 then some ⟨stack, .dot (text ++ [byte])⟩
  else if exp ∧ (byte = 101 ∨ byte = 69) then some ⟨stack, .exp (text ++ [byte])⟩
  else endValue stack (.number text) byte

def step (s : Scanner) (byte : UInt8) : Option Scanner :=
  match s.mode with
  | .beginValue => if isSpace byte then some s else beginValue s.stack byte
  | .beginValueOrEmpty =>
    if isSpace byte then some s
    else match byte == 93, s.stack with
      | true, .array items :: rest => some ⟨rest, .endValue (.array items)⟩
      | _, _ => beginValue s.stack byte
  | .beginString =>
    if isSpace byte then some s
    else if byte = 34 then some ⟨s.stack, .inString []⟩
    else none
  | .beginStringOrEmpty =>
    if isSpace byte then some s
    else if byte = 34 then some ⟨s.stack, .inString []⟩
    else match byte == 125, s.stack with
      | true, .key members :: rest => some ⟨rest, .endValue (.object members)⟩
      | _, _ => none
  | .endValue value => endValue s.stack value byte
  | .inString raw =>
    if byte = 34 then some ⟨s.stack, .endValue (.string raw)⟩
    else if byte = 92 then some ⟨s.stack, .inEscape (raw ++ [byte])⟩
    else if byte.toNat < 0x20 then none
    else some ⟨s.stack, .inString (raw ++ [byte])⟩
  | .inEscape raw =>
    if byte = 117 then some ⟨s.stack, .inUnicode (raw ++ [byte]) 4⟩
    else if [98, 102, 110, 114, 116, 92, 47, 34].contains byte then
      some ⟨s.stack, .inString (raw ++ [byte])⟩
    else none
  | .inUnicode raw left =>
    if (hexValue byte).isNone then none
    else if left ≤ 1 then some ⟨s.stack, .inString (raw ++ [byte])⟩
    else some ⟨s.stack, .inUnicode (raw ++ [byte]) (left - 1)⟩
  | .literal rest value =>
    if rest.head? ≠ some byte then none
    else if rest.tail = [] then some ⟨s.stack, .endValue value⟩
    else some ⟨s.stack, .literal rest.tail value⟩
  | .neg text =>
    if byte = 48 then some ⟨s.stack, .zero (text ++ [byte])⟩
    else if isDigit byte then some ⟨s.stack, .digits (text ++ [byte])⟩
    else none
  | .zero text => inNumber s.stack text byte true true
  | .digits text =>
    if isDigit byte then some ⟨s.stack, .digits (text ++ [byte])⟩
    else inNumber s.stack text byte true true
  | .dot text => if isDigit byte then some ⟨s.stack, .fraction (text ++ [byte])⟩ else none
  | .fraction text =>
    if isDigit byte then some ⟨s.stack, .fraction (text ++ [byte])⟩
    else inNumber s.stack text byte false true
  | .exp text =>
    if byte = 43 ∨ byte = 45 then some ⟨s.stack, .expSign (text ++ [byte])⟩
    else if isDigit byte then some ⟨s.stack, .exponent (text ++ [byte])⟩
    else none
  | .expSign text => if isDigit byte then some ⟨s.stack, .exponent (text ++ [byte])⟩ else none
  | .exponent text =>
    if isDigit byte then some ⟨s.stack, .exponent (text ++ [byte])⟩
    else inNumber s.stack text byte false false

def scan (s : Scanner) : List UInt8 → Option Scanner
  | [] => some s
  | byte :: rest => (step s byte).bind fun next => scan next rest

/-- The value of a text with nothing but spaces around it. -/
def parse (text : List UInt8) : Option Json :=
  (scan ⟨[], .beginValue⟩ text).bind fun s =>
    match step s 32 with
    | some ⟨[], .endValue value⟩ => some value
    | _ => none

/-- The names of fields are matched without regard to case; outside of ASCII, two letters fold
into it. -/
def foldName : List UInt8 → List UInt8
  | 0xc5 :: 0xbf :: rest => 83 :: foldName rest
  | 0xe2 :: 0x84 :: 0xaa :: rest => 75 :: foldName rest
  | byte :: rest =>
    (if 97 ≤ byte.toNat ∧ byte.toNat ≤ 122 then byte - 32 else byte) :: foldName rest
  | [] => []

/-- A number as an `int64`. -/
def toInt64 (text : List UInt8) : Option Int :=
  let magnitude := text.dropWhile (· == 45)
  let value : Int :=
    if text.head? = some 45 then -(readDecimal magnitude) else readDecimal magnitude
  if magnitude.all isDigit ∧ -(2 ^ 63) ≤ value ∧ value < 2 ^ 63 then some value else none

/-! ### Writing objects -/

theorem toInt64_decimal {n : Nat} (bound : n < 2 ^ 63) :
    toInt64 (decimal 19 n) = some (n : Int) := by
  obtain ⟨all, first, starts, unsigned, _⟩ := decimal_digits 19 n
  have unsigned : (decimal 19 n).dropWhile (· == 45) = decimal 19 n ∧
      (decimal 19 n).head? ≠ some 45 := by
    cases digits : decimal 19 n with
    | nil =>
        rw [digits] at starts
        cases starts
    | cons byte rest =>
        rw [digits] at starts
        obtain rfl := Option.some.inj starts
        simp [unsigned]
  have value := readDecimal_decimal (show n < 10 ^ 19 from Nat.lt_trans bound (by decide))
  simp only [toInt64, unsigned.1, if_neg unsigned.2, value, all, true_and]
  rw [if_pos]
  constructor
  · omega
  · exact_mod_cast bound

def encodeBool (value : Bool) : List UInt8 :=
  if value then ascii ['t', 'r', 'u', 'e'] else ascii ['f', 'a', 'l', 's', 'e']

/-- A name and the text of a value. -/
def encodeMember (member : List UInt8 × List UInt8) : List UInt8 :=
  quote member.1 ++ 58 :: member.2

def encodeMembers : List (List UInt8 × List UInt8) → List UInt8
  | [] => []
  | [member] => encodeMember member
  | member :: next :: rest => encodeMember member ++ 44 :: encodeMembers (next :: rest)

def encodeObject (members : List (List UInt8 × List UInt8)) : List UInt8 :=
  123 :: encodeMembers members ++ [125]

/-- A quoted text without escapes. -/
theorem scan_plain {text : List UInt8} (plain : text.all isPlain = true) (stack : List Frame)
    (raw : List UInt8) (rest : List UInt8) :
    scan ⟨stack, .inString raw⟩ (text ++ 34 :: rest) =
      scan ⟨stack, .endValue (.string (raw ++ text))⟩ rest := by
  induction text generalizing raw with
  | nil => simp [scan, step]
  | cons byte text ih =>
      rw [List.all_cons, Bool.and_eq_true] at plain
      obtain ⟨unquoted, unescaped, shown, _⟩ := plain_ne plain.1
      have next : step ⟨stack, .inString raw⟩ byte = some ⟨stack, .inString (raw ++ [byte])⟩ := by
        simp only [step, unquoted, unescaped, if_false]
        exact if_neg (Nat.not_lt.mpr shown)
      rw [List.cons_append, scan, next, Option.bind_some, ih plain.2, List.append_assoc]
      rfl

theorem scan_digits {digits : List UInt8} (all : digits.all isDigit = true) (stack : List Frame)
    (text : List UInt8) (rest : List UInt8) :
    scan ⟨stack, .digits text⟩ (digits ++ rest) = scan ⟨stack, .digits (text ++ digits)⟩ rest := by
  induction digits generalizing text with
  | nil => simp
  | cons byte digits ih =>
      rw [List.all_cons, Bool.and_eq_true] at all
      have next : step ⟨stack, .digits text⟩ byte = some ⟨stack, .digits (text ++ [byte])⟩ := by
        simp only [step, all.1, if_true]
      rw [List.cons_append, scan, next, Option.bind_some, ih all.2, List.append_assoc]
      rfl

/-- The text of a value, which is read when the next byte ends it. -/
def Scans (text : List UInt8) (value : Json) : Prop :=
  ∀ stack byte rest, byte = 44 ∨ byte = 125 →
    scan ⟨stack, .beginValue⟩ (text ++ byte :: rest) =
      (endValue stack value byte).bind fun next => scan next rest

theorem scans_bool (value : Bool) : Scans (encodeBool value) (.bool value) := by
  intro stack byte rest _
  cases value with
  | true => rfl
  | false => rfl

theorem scan_quote {text : List UInt8} (plain : text.all isPlain = true) {stack : List Frame}
    {mode : Mode} (opens : step ⟨stack, mode⟩ 34 = some ⟨stack, .inString []⟩)
    (rest : List UInt8) :
    scan ⟨stack, mode⟩ (quote text ++ rest) = scan ⟨stack, .endValue (.string text)⟩ rest := by
  have quoted : quote text ++ rest = 34 :: (text ++ 34 :: rest) := by
    rw [quote, quoteFrom_plain plain]
    simp
  rw [quoted, scan, opens, Option.bind_some, scan_plain plain, List.nil_append]

theorem scans_string {text : List UInt8} (plain : text.all isPlain = true) :
    Scans (quote text) (.string text) := by
  intro stack byte rest _
  rw [scan_quote plain rfl]
  rfl

theorem scans_decimal (width n : Nat) : Scans (decimal width n) (.number (decimal width n)) := by
  intro stack byte rest ends
  have plain : isDigit byte = false ∧ byte ≠ 46 ∧ byte ≠ 101 ∧ byte ≠ 69 := by
    rcases ends with rfl | rfl
    · decide
    · decide
  have starts {first : UInt8} (range : 49 ≤ first.toNat ∧ first.toNat ≤ 57) :
      step ⟨stack, .beginValue⟩ first = some ⟨stack, .digits [first]⟩ := by
    have apart (other : UInt8) (outside : other.toNat < 49 ∨ 57 < other.toNat) :
        first ≠ other := by
      rintro rfl
      omega
    have space : isSpace first = false := by
      simp [isSpace, apart 32, apart 9, apart 13, apart 10]
    have digit : isDigit first = true := by
      simp only [isDigit, Bool.and_eq_true, decide_eq_true_eq]
      omega
    simp [step, beginValue, space, digit, apart 123, apart 91, apart 34, apart 45, apart 48]
  rcases decimal_shape width n with zero | ⟨first, digits, shape, range, all⟩
  · rw [zero]
    show (inNumber stack [48] byte true true).bind _ = _
    simp [inNumber, plain]
  · rw [shape, List.cons_append, scan, starts range, Option.bind_some, scan_digits all]
    show (step ⟨stack, .digits (first :: digits)⟩ byte).bind _ = _
    simp [step, inNumber, plain]

theorem scan_member {name text : List UInt8} {value : Json} (plain : name.all isPlain = true)
    (scans : Scans text value) {stack : List Frame} {done : List (List UInt8 × Json)} {mode : Mode}
    (opens : step ⟨.key done :: stack, mode⟩ 34 = some ⟨.key done :: stack, .inString []⟩)
    {byte : UInt8} (ends : byte = 44 ∨ byte = 125) (rest : List UInt8) :
    scan ⟨.key done :: stack, mode⟩ (encodeMember (name, text) ++ byte :: rest) =
      (endValue (.member done name :: stack) value byte).bind fun next => scan next rest := by
  have split : encodeMember (name, text) ++ byte :: rest =
      quote name ++ 58 :: (text ++ byte :: rest) := by
    simp [encodeMember]
  have colon : step ⟨.key done :: stack, .endValue (.string name)⟩ 58 =
      some ⟨.member done (unquoteFrom 0 name) :: stack, .beginValue⟩ := rfl
  rw [split, scan_quote plain opens, scan, colon, Option.bind_some, unquoteFrom_plain plain]
  exact scans _ byte rest ends

/-- The members of an object, up to its closing bracket. -/
theorem scan_members {members : List (List UInt8 × List UInt8 × Json)} (some : members ≠ [])
    (each : ∀ m ∈ members, m.1.all isPlain = true ∧ Scans m.2.1 m.2.2) {stack : List Frame}
    {done : List (List UInt8 × Json)} {mode : Mode}
    (opens : step ⟨.key done :: stack, mode⟩ 34 = .some ⟨.key done :: stack, .inString []⟩) :
    scan ⟨.key done :: stack, mode⟩
      (encodeMembers (members.map fun m => (m.1, m.2.1)) ++ [125]) =
        .some ⟨stack, .endValue (.object (done ++ members.map fun m => (m.1, m.2.2)))⟩ := by
  induction members generalizing done mode with
  | nil => exact absurd rfl some
  | cons member rest ih =>
      obtain ⟨plain, scans⟩ := each member List.mem_cons_self
      cases rest with
      | nil =>
          rw [List.map_singleton, encodeMembers, scan_member plain scans opens (Or.inr rfl)]
          rfl
      | cons next rest =>
          have within : ∀ m ∈ next :: rest, m.1.all isPlain = true ∧ Scans m.2.1 m.2.2 :=
            fun m present => each m (List.mem_cons_of_mem _ present)
          have opened : step ⟨.key (done ++ [(member.1, member.2.2)]) :: stack, .beginString⟩ 34 =
              .some ⟨.key (done ++ [(member.1, member.2.2)]) :: stack, .inString []⟩ := rfl
          have later := ih (List.cons_ne_nil _ _) within opened
          rw [List.map_cons, List.map_cons, encodeMembers, List.append_assoc, List.cons_append,
            scan_member plain scans opens (Or.inl rfl)]
          show scan ⟨.key (done ++ [(member.1, member.2.2)]) :: stack, .beginString⟩ _ = _
          refine later.trans ?_
          simp

theorem parse_object (members : List (List UInt8 × List UInt8 × Json)) (some : members ≠ [])
    (each : ∀ m ∈ members, m.1.all isPlain = true ∧ Scans m.2.1 m.2.2) :
    parse (encodeObject (members.map fun m => (m.1, m.2.1))) =
      .some (.object (members.map fun m => (m.1, m.2.2))) := by
  have opened : step ⟨[.key []], .beginStringOrEmpty⟩ 34 =
      .some ⟨[.key []], .inString []⟩ := rfl
  have whole := scan_members some each opened
  unfold parse encodeObject
  rw [List.cons_append, scan]
  show ((scan ⟨[.key []], .beginStringOrEmpty⟩ _).bind _) = _
  rw [whole]
  rfl

end Json

end Library
