/-
JSON texts as Go's `encoding/json` writes and reads them: `render` escapes what `Marshal` escapes,
`read` accepts the grammar, `parse` what of it `Unmarshal` and `Valid` accept, and a rendered string
reads back as itself.
-/
import NodejsHelper.Lib.Json

namespace Json

/-! ## Writing -/

/-- The `\u` escape of a code unit. -/
def unicodeEscape (n : Nat) : List Char :=
  ['\\', 'u', Nat.digitChar (n / 4096 % 16), Nat.digitChar (n / 256 % 16), Nat.digitChar (n / 16 % 16),
    Nat.digitChar (n % 16)]

/-- How `Marshal` writes a character of a string; the characters HTML or JavaScript give a meaning
are escaped as well. -/
def escapeChar (c : Char) : List Char :=
  if c = '"' then ['\\', '"']
  else if c = '\\' then ['\\', '\\']
  else if c = '\x08' then ['\\', 'b']
  else if c = '\x0c' then ['\\', 'f']
  else if c = '\n' then ['\\', 'n']
  else if c = '\r' then ['\\', 'r']
  else if c = '\t' then ['\\', 't']
  else if c.toNat < 32 ∨ c ∈ ['<', '>', '&', '\u2028', '\u2029'] then unicodeEscape c.toNat
  else [c]

/-- A string between its quotes. -/
def renderString (s : String) : List Char := '"' :: (s.toList.flatMap escapeChar ++ ['"'])

mutual

/-- The characters of a value. -/
def renderValue : Json → List Char
  | .null => "null".toList
  | .bool b => (if b then "true" else "false").toList
  | .num literal => literal.toList
  | .str s => renderString s
  | .arr items => '[' :: renderItems items
  | .obj members => '{' :: renderMembers members

/-- The items of an array and its closing bracket. -/
def renderItems : List Json → List Char
  | [] => [']']
  | [v] => renderValue v ++ [']']
  | v :: w :: vs => renderValue v ++ ',' :: renderItems (w :: vs)

/-- The members of an object and its closing brace. -/
def renderMembers : List (String × Json) → List Char
  | [] => ['}']
  | [(k, v)] => renderString k ++ ':' :: (renderValue v ++ ['}'])
  | (k, v) :: m :: ms => renderString k ++ ':' :: (renderValue v ++ ',' :: renderMembers (m :: ms))

end

/-- `json.Marshal`. -/
def render (v : Json) : String := String.ofList (renderValue v)

/-! ## Reading strings -/

/-- The character a one-letter escape stands for. -/
def unescape : Char → Option Char
  | '"' => some '"'
  | '\\' => some '\\'
  | '/' => some '/'
  | 'b' => some '\x08'
  | 'f' => some '\x0c'
  | 'n' => some '\n'
  | 'r' => some '\r'
  | 't' => some '\t'
  | _ => none

/-- The value of a hexadecimal digit. -/
def hexValue (c : Char) : Option Nat :=
  if '0' ≤ c ∧ c ≤ '9' then some (c.toNat - 48)
  else if 'a' ≤ c ∧ c ≤ 'f' then some (c.toNat - 87)
  else if 'A' ≤ c ∧ c ≤ 'F' then some (c.toNat - 55)
  else none

/-- The code unit four hexadecimal digits stand for. -/
def hexUnit (a b c d : Char) : Option Nat :=
  match hexValue a, hexValue b, hexValue c, hexValue d with
  | some a, some b, some c, some d => some (((a * 16 + b) * 16 + c) * 16 + d)
  | _, _, _, _ => none

/-- A unit in front of what the rest of the string reads as. -/
def consUnit (unit : Option Nat) (rest : Option (List Nat × List Char)) : Option (List Nat × List Char) :=
  match unit, rest with
  | some n, some (units, rest) => some (n :: units, rest)
  | _, _ => none

/-- The code units of a string behind its opening quote, and what follows the closing one. -/
def parseUnits : List Char → Option (List Nat × List Char)
  | [] => none
  | '"' :: rest => some ([], rest)
  | '\\' :: 'u' :: a :: b :: c :: d :: rest => consUnit (hexUnit a b c d) (parseUnits rest)
  | '\\' :: e :: rest => consUnit ((unescape e).map Char.toNat) (parseUnits rest)
  | c :: rest => if c.toNat < 32 ∨ c = '\\' then none else consUnit (some c.toNat) (parseUnits rest)

def isHighSurrogate (n : Nat) : Bool := 0xD800 ≤ n && n < 0xDC00

def isLowSurrogate (n : Nat) : Bool := 0xDC00 ≤ n && n < 0xE000

/-- The characters of code units: a surrogate pair is one character, and a lone surrogate, which
`Char.ofNat` would not keep, the replacement character. -/
def joinUnits : List Nat → List Char
  | [] => []
  | [n] => [if isHighSurrogate n || isLowSurrogate n then '\uFFFD' else Char.ofNat n]
  | n :: m :: units =>
    if isHighSurrogate n && isLowSurrogate m then
      Char.ofNat (0x10000 + (n - 0xD800) * 0x400 + (m - 0xDC00)) :: joinUnits units
    else (if isHighSurrogate n || isLowSurrogate n then '\uFFFD' else Char.ofNat n) :: joinUnits (m :: units)

/-- A string behind its opening quote. -/
def parseString (l : List Char) : Option (String × List Char) :=
  (parseUnits l).map fun r => (String.ofList (joinUnits r.1), r.2)

/-! ## Reading numbers -/

/-- One digit or more. -/
def scanDigits (l : List Char) : Option (List Char × List Char) :=
  if (l.takeWhile Char.isDigit).isEmpty then none else some (l.takeWhile Char.isDigit, l.dropWhile Char.isDigit)

/-- The integer part: no leading zero. -/
def scanInteger : List Char → Option (List Char × List Char)
  | '0' :: rest => some (['0'], rest)
  | l => scanDigits l

/-- The fraction, when there is one. -/
def scanFraction : List Char → Option (List Char × List Char)
  | '.' :: rest => (scanDigits rest).map fun r => ('.' :: r.1, r.2)
  | l => some ([], l)

/-- The digits of an exponent, behind an optional sign. -/
def scanExponentDigits : List Char → Option (List Char × List Char)
  | '+' :: rest => (scanDigits rest).map fun r => ('+' :: r.1, r.2)
  | '-' :: rest => (scanDigits rest).map fun r => ('-' :: r.1, r.2)
  | l => scanDigits l

/-- The exponent, when there is one. -/
def scanExponent : List Char → Option (List Char × List Char)
  | 'e' :: rest => (scanExponentDigits rest).map fun r => ('e' :: r.1, r.2)
  | 'E' :: rest => (scanExponentDigits rest).map fun r => ('E' :: r.1, r.2)
  | l => some ([], l)

/-- A number without its sign. -/
def scanMagnitude (l : List Char) : Option (List Char × List Char) :=
  (scanInteger l).bind fun i => (scanFraction i.2).bind fun f =>
    (scanExponent f.2).map fun e => (i.1 ++ f.1 ++ e.1, e.2)

/-- A number literal. -/
def scanNumber : List Char → Option (List Char × List Char)
  | '-' :: rest => (scanMagnitude rest).map fun r => ('-' :: r.1, r.2)
  | l => scanMagnitude l

/-! ## Reading values -/

/-- The text without leading white space. -/
def skipSpace (l : List Char) : List Char := l.dropWhile fun c => c = ' ' || c = '\t' || c = '\n' || c = '\r'

mutual

/-- One value and what follows it. -/
def parseValue : Nat → List Char → Option (Json × List Char)
  | 0, _ => none
  | fuel + 1, l =>
    match skipSpace l with
    | '"' :: rest => (parseString rest).map fun r => (.str r.1, r.2)
    | '[' :: rest =>
      match skipSpace rest with
      | ']' :: rest => some (.arr [], rest)
      | rest => (parseItems fuel rest).map fun r => (.arr r.1, r.2)
    | '{' :: rest =>
      match skipSpace rest with
      | '}' :: rest => some (.obj [], rest)
      | rest => (parseMembers fuel rest).map fun r => (.obj r.1, r.2)
    | 'n' :: 'u' :: 'l' :: 'l' :: rest => some (.null, rest)
    | 't' :: 'r' :: 'u' :: 'e' :: rest => some (.bool true, rest)
    | 'f' :: 'a' :: 'l' :: 's' :: 'e' :: rest => some (.bool false, rest)
    | rest => (scanNumber rest).map fun r => (.num (String.ofList r.1), r.2)

/-- The items of an array up to its closing bracket. -/
def parseItems : Nat → List Char → Option (List Json × List Char)
  | 0, _ => none
  | fuel + 1, l =>
    match parseValue fuel l with
    | none => none
    | some (v, rest) =>
      match skipSpace rest with
      | ',' :: rest => (parseItems fuel rest).map fun r => (v :: r.1, r.2)
      | ']' :: rest => some ([v], rest)
      | _ => none

/-- The members of an object up to its closing brace. -/
def parseMembers : Nat → List Char → Option (List (String × Json) × List Char)
  | 0, _ => none
  | fuel + 1, l =>
    match skipSpace l with
    | '"' :: rest =>
      match parseString rest with
      | none => none
      | some (k, rest) =>
        match skipSpace rest with
        | ':' :: rest =>
          match parseValue fuel rest with
          | none => none
          | some (v, rest) =>
            match skipSpace rest with
            | ',' :: rest => (parseMembers fuel rest).map fun r => ((k, v) :: r.1, r.2)
            | '}' :: rest => some ([(k, v)], rest)
            | _ => none
        | _ => none
    | _ => none

end

/-- The value of a JSON text: the whole text is one value, as to `JSON.parse`. Every nested call but the
first consumes a character before the one after it, so twice the length is fuel enough. -/
def read (s : String) : Option Json :=
  match parseValue (2 * s.length + 2) s.toList with
  | some (v, rest) => if (skipSpace rest).isEmpty then some v else none
  | none => none

/-- `json.Unmarshal` into a value, and whether the text is valid to `json.Valid`. -/
def parse (s : String) : Option Json := (read s).filter fun v => decide (v.depth ≤ maxNestingDepth)

theorem parse_eq_some {s : String} {v : Json} : parse s = some v ↔ read s = some v ∧ v.depth ≤ maxNestingDepth := by
  simp [parse, Option.filter_eq_some_iff]

/-! ## Strings read back -/

theorem hexValue_digitChar : ∀ d < 16, hexValue (Nat.digitChar d) = some d := by decide

theorem hexUnit_digits {n : Nat} (h : n < 65536) :
    hexUnit (Nat.digitChar (n / 4096 % 16)) (Nat.digitChar (n / 256 % 16)) (Nat.digitChar (n / 16 % 16))
      (Nat.digitChar (n % 16)) = some n := by
  unfold hexUnit
  rw [hexValue_digitChar _ (by omega), hexValue_digitChar _ (by omega), hexValue_digitChar _ (by omega),
    hexValue_digitChar _ (by omega)]
  simp only [Option.some.injEq]
  omega

theorem parseUnits_unicodeEscape {n : Nat} (h : n < 65536) (rest : List Char) :
    parseUnits (unicodeEscape n ++ rest) = consUnit (some n) (parseUnits rest) := by
  have hu := hexUnit_digits h
  simp only [unicodeEscape, List.cons_append, List.nil_append]
  rw [parseUnits, hu]

theorem parseUnits_plain {c : Char} (hq : c ≠ '"') (hb : c ≠ '\\') (hc : ¬ c.toNat < 32) (rest : List Char) :
    parseUnits (c :: rest) = consUnit (some c.toNat) (parseUnits rest) := by
  rw [parseUnits.eq_def]
  split
  · rename_i h; cases h
  · rename_i h; exact absurd (List.cons.inj h).1 hq
  · rename_i h; exact absurd (List.cons.inj h).1 hb
  · rename_i h; exact absurd (List.cons.inj h).1 hb
  · rename_i h
    obtain ⟨rfl, rfl⟩ := List.cons.inj h
    exact if_neg (by simp [hc, hb])

/-- What `Marshal` writes for a character reads as that character. -/
theorem parseUnits_escapeChar (c : Char) (rest : List Char) :
    parseUnits (escapeChar c ++ rest) = consUnit (some c.toNat) (parseUnits rest) := by
  unfold escapeChar
  split
  · rename_i h; subst h; rfl
  rename_i hq
  split
  · rename_i h; subst h; rfl
  rename_i hb
  split
  · rename_i h; subst h; rfl
  split
  · rename_i h; subst h; rfl
  split
  · rename_i h; subst h; rfl
  split
  · rename_i h; subst h; rfl
  split
  · rename_i h; subst h; rfl
  split
  · rename_i h
    refine parseUnits_unicodeEscape ?_ rest
    rcases h with h | h
    · omega
    · simp only [List.mem_cons, List.not_mem_nil, or_false] at h
      rcases h with rfl | rfl | rfl | rfl | rfl <;> decide
  · rename_i h
    exact parseUnits_plain hq hb (fun hc => h (Or.inl hc)) rest

theorem parseUnits_flatMap (cs rest : List Char) :
    parseUnits (cs.flatMap escapeChar ++ '"' :: rest) = some (cs.map Char.toNat, rest) := by
  induction cs with
  | nil => rfl
  | cons c cs ih => rw [List.flatMap_cons, List.append_assoc, parseUnits_escapeChar, ih]; rfl

/-- No character is a surrogate. -/
theorem not_surrogate (c : Char) : (isHighSurrogate c.toNat || isLowSurrogate c.toNat) = false := by
  have h := c.valid
  simp only [isHighSurrogate, isLowSurrogate, Bool.or_eq_false_iff, Bool.and_eq_false_iff, decide_eq_false_iff_not]
  simp only [UInt32.isValidChar, Nat.isValidChar] at h
  have : c.toNat = c.val.toNat := rfl
  omega

theorem joinUnits_map (cs : List Char) : joinUnits (cs.map Char.toNat) = cs := by
  induction cs with
  | nil => rfl
  | cons c cs ih =>
    obtain ⟨hh, hl⟩ := Bool.or_eq_false_iff.1 (not_surrogate c)
    cases cs with
    | nil => simp [joinUnits, hh, hl]
    | cons d ds =>
      simp only [List.map_cons] at ih ⊢
      simp [joinUnits, hh, hl, ih]

theorem parseString_render (s : String) (rest : List Char) :
    parseString (s.toList.flatMap escapeChar ++ '"' :: rest) = some (s, rest) := by
  simp [parseString, parseUnits_flatMap, joinUnits_map]

theorem read_render_str (s : String) : read (render (.str s)) = some (.str s) := by
  have hp := parseString_render s []
  have hv : ∀ fuel, parseValue (fuel + 1) (renderString s) = some (.str s, []) := by
    intro fuel
    rw [parseValue]
    have hskip : skipSpace (renderString s) = renderString s := rfl
    rw [hskip, renderString]
    simp [hp]
  simp [read, render, renderValue, hv, skipSpace]

/-- A string reads back as itself. -/
@[simp] theorem parse_render_str (s : String) : parse (render (.str s)) = some (.str s) :=
  parse_eq_some.2 ⟨read_render_str s, Nat.zero_le _⟩

end Json
