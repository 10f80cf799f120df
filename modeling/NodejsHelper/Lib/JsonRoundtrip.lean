/-
What a JSON writer wrote reads back as the value it wrote: a writer is given by the way it escapes a
character, every number literal of a value is one the grammar accepts, and the reader needs to know
only that what follows a value does not continue a number.
-/
import NodejsHelper.Lib.JsonText

namespace Json

/-! ## Number literals -/

/-- The text is one number of the grammar. -/
def IsLiteral (s : String) : Prop := scanNumber s.toList = some (s.toList, [])

instance (s : String) : Decidable (IsLiteral s) := inferInstanceAs (Decidable (_ = _))

/-- A character that can stand inside a number behind its sign. -/
def continuesNumber (c : Char) : Bool := c.isDigit || c = '.' || c = 'e' || c = 'E'

/-- What follows a value does not continue a number. -/
def Stops (rest : List Char) : Prop := ∀ c ∈ rest.head?, continuesNumber c = false

@[simp] theorem stops_nil : Stops [] := by rintro c ⟨⟩

theorem stops_cons {c : Char} {rest : List Char} (h : continuesNumber c = false) : Stops (c :: rest) := by
  rintro c' hc'
  simp only [List.head?_cons, Option.mem_some_iff] at hc'
  exact hc' ▸ h

/-- What follows a run of digits does not start with one. -/
def NoDigit (rest : List Char) : Prop := ∀ c ∈ rest.head?, c.isDigit = false

theorem Stops.noDigit {rest : List Char} (h : Stops rest) : NoDigit rest := by
  intro c hc
  have := h c hc
  simp only [continuesNumber, Bool.or_eq_false_iff] at this
  exact this.1.1.1

theorem takeWhile_digits {rest : List Char} (h : NoDigit rest) (l : List Char) :
    (l ++ rest).takeWhile Char.isDigit = l.takeWhile Char.isDigit ∧
      (l ++ rest).dropWhile Char.isDigit = l.dropWhile Char.isDigit ++ rest := by
  induction l with
  | nil =>
    cases rest with
    | nil => exact ⟨rfl, rfl⟩
    | cons c rest =>
      have hc : c.isDigit = false := h c rfl
      simp [hc]
  | cons c l ih =>
    by_cases hc : c.isDigit
    · simp [hc, ih]
    · simp [hc]

/-- A scanner takes a beginning of its text, and takes it again in front of anything that stops it. -/
def Splits (stops : List Char → Prop) (scan : List Char → Option (List Char × List Char)) : Prop :=
  ∀ l a b, scan l = some (a, b) → ∀ rest, stops rest → scan (a ++ rest) = some (a, rest)

theorem Splits.map {stops : List Char → Prop} {scan : List Char → Option (List Char × List Char)}
    (hs : Splits stops scan) (c : Char) : ∀ l a b, (scan l).map (fun r => (c :: r.1, r.2)) = some (a, b) →
      ∃ a', a = c :: a' ∧ ∀ rest, stops rest → (scan (a' ++ rest)).map (fun r => (c :: r.1, r.2)) = some (a, rest) := by
  intro l a b h
  obtain ⟨⟨a', b'⟩, hscan, hab⟩ := Option.map_eq_some_iff.1 h
  cases hab
  refine ⟨a', rfl, fun rest hrest => ?_⟩
  rw [hs l a' b' hscan rest hrest]
  rfl

theorem splits_scanDigits : Splits NoDigit scanDigits := by
  intro l a b h rest hrest
  unfold scanDigits at h
  split at h
  · cases h
  · rename_i hne
    cases h
    have hall : ∀ c ∈ l.takeWhile Char.isDigit, c.isDigit = true := fun c hc => List.mem_takeWhile_imp hc
    obtain ⟨ht, hd⟩ := takeWhile_digits hrest (l.takeWhile Char.isDigit)
    rw [List.takeWhile_eq_self_iff.2 hall] at ht
    rw [List.dropWhile_eq_nil_iff.2 hall, List.nil_append] at hd
    unfold scanDigits
    rw [ht, hd, if_neg hne]

theorem scanInteger_of_ne {c : Char} (hc : c ≠ '0') (l : List Char) : scanInteger (c :: l) = scanDigits (c :: l) := by
  rw [scanInteger]
  intro r hr
  exact hc (List.cons.inj hr).1

theorem splits_scanInteger : Splits NoDigit scanInteger := by
  intro l a b h rest hrest
  cases l with
  | nil => cases h
  | cons c l =>
    by_cases hc : c = '0'
    · subst hc
      simp only [scanInteger, Option.some.injEq, Prod.mk.injEq] at h
      obtain ⟨rfl, -⟩ := h
      rfl
    · rw [scanInteger_of_ne hc] at h
      have hd := splits_scanDigits (c :: l) a b h rest hrest
      -- the digits taken start with the one they were taken from
      unfold scanDigits at h
      split at h
      · cases h
      · rename_i hne
        cases h
        rw [List.takeWhile_cons] at hne hd ⊢
        split at hne
        · rename_i hdig
          rw [if_pos hdig] at hd ⊢
          rw [List.cons_append] at hd ⊢
          rw [scanInteger_of_ne hc, hd]
        · exact absurd rfl hne

/-- Where no fraction can start. -/
def NoFraction (rest : List Char) : Prop := NoDigit rest ∧ ∀ r, rest ≠ '.' :: r

theorem splits_scanFraction : Splits NoFraction scanFraction ∧
    ∀ l a b, scanFraction l = some (a, b) → a = [] ∨ ∃ a', a = '.' :: a' := by
  have hcases : ∀ l a b, scanFraction l = some (a, b) → ∀ rest, NoFraction rest →
      scanFraction (a ++ rest) = some (a, rest) ∧ (a = [] ∨ ∃ a', a = '.' :: a') := by
    intro l a b h rest hrest
    unfold scanFraction at h
    split at h
    · obtain ⟨a', rfl, hscan⟩ := splits_scanDigits.map '.' _ _ _ h
      exact ⟨hscan rest hrest.1, Or.inr ⟨a', rfl⟩⟩
    · cases h
      refine ⟨?_, Or.inl rfl⟩
      rw [List.nil_append, scanFraction]
      exact hrest.2
  refine ⟨fun l a b h rest hrest => (hcases l a b h rest hrest).1, fun l a b h => ?_⟩
  exact (hcases l a b h [] ⟨by rintro c ⟨⟩, by rintro r ⟨⟩⟩).2

theorem splits_scanExponentDigits : Splits NoDigit scanExponentDigits := by
  intro l a b h rest hrest
  unfold scanExponentDigits at h
  split at h
  · obtain ⟨a', rfl, hscan⟩ := splits_scanDigits.map '+' _ _ _ h
    exact hscan rest hrest
  · obtain ⟨a', rfl, hscan⟩ := splits_scanDigits.map '-' _ _ _ h
    exact hscan rest hrest
  · have hd := splits_scanDigits l a b h rest hrest
    unfold scanDigits at h
    split at h
    · cases h
    · rename_i hne
      cases h
      cases l with
      | nil => exact absurd rfl hne
      | cons c l =>
        rw [List.takeWhile_cons] at hne hd ⊢
        split at hne
        · rename_i hplus hminus hdig
          rw [if_pos hdig, List.cons_append] at hd ⊢
          rw [scanExponentDigits]
          · exact hd
          · intro r hr; exact hplus l (by rw [(List.cons.inj hr).1])
          · intro r hr; exact hminus l (by rw [(List.cons.inj hr).1])
        · exact absurd rfl hne

theorem splits_scanExponent : Splits Stops scanExponent ∧
    ∀ l a b, scanExponent l = some (a, b) → a = [] ∨ ∃ c a', a = c :: a' ∧ c.isDigit = false ∧ c ≠ '.' := by
  have hcases : ∀ l a b, scanExponent l = some (a, b) → ∀ rest, Stops rest →
      scanExponent (a ++ rest) = some (a, rest) ∧ (a = [] ∨ ∃ c a', a = c :: a' ∧ c.isDigit = false ∧ c ≠ '.') := by
    intro l a b h rest hrest
    unfold scanExponent at h
    split at h
    · obtain ⟨a', rfl, hscan⟩ := splits_scanExponentDigits.map 'e' _ _ _ h
      exact ⟨hscan rest hrest.noDigit, Or.inr ⟨'e', a', rfl, by decide, by decide⟩⟩
    · obtain ⟨a', rfl, hscan⟩ := splits_scanExponentDigits.map 'E' _ _ _ h
      exact ⟨hscan rest hrest.noDigit, Or.inr ⟨'E', a', rfl, by decide, by decide⟩⟩
    · cases h
      refine ⟨?_, Or.inl rfl⟩
      rw [List.nil_append, scanExponent]
      · rintro r rfl
        exact absurd (hrest 'e' rfl) (by decide)
      · rintro r rfl
        exact absurd (hrest 'E' rfl) (by decide)
  exact ⟨fun l a b h rest hrest => (hcases l a b h rest hrest).1, fun l a b h => (hcases l a b h [] stops_nil).2⟩

theorem splits_scanMagnitude : Splits Stops scanMagnitude := by
  intro l a b h rest hrest
  obtain ⟨⟨i, l₁⟩, hi, h⟩ := Option.bind_eq_some_iff.1 h
  obtain ⟨⟨f, l₂⟩, hf, h⟩ := Option.bind_eq_some_iff.1 h
  obtain ⟨⟨e, l₃⟩, he, h⟩ := Option.map_eq_some_iff.1 h
  cases h
  have hnofraction : NoFraction (e ++ rest) := by
    rcases splits_scanExponent.2 _ _ _ he with rfl | ⟨c, e', rfl, hc, hdot⟩
    · refine ⟨hrest.noDigit, ?_⟩
      rintro r hr
      rw [List.nil_append] at hr
      exact absurd (hrest '.' (by rw [hr]; rfl)) (by decide)
    · refine ⟨?_, fun r hr => hdot (List.cons.inj hr).1⟩
      rintro c' hc'
      cases hc'
      exact hc
  have hnodigit : NoDigit (f ++ (e ++ rest)) := by
    rcases splits_scanFraction.2 _ _ _ hf with rfl | ⟨f', rfl⟩
    · exact hnofraction.1
    · rintro c ⟨⟩
      decide
  have hi' := splits_scanInteger l i l₁ hi _ hnodigit
  have hf' := splits_scanFraction.1 l₁ f l₂ hf _ hnofraction
  have he' := splits_scanExponent.1 l₂ e l₃ he rest hrest
  simp [scanMagnitude, hi', hf', he']

theorem scanNumber_of_ne {c : Char} (hc : c ≠ '-') (l : List Char) : scanNumber (c :: l) = scanMagnitude (c :: l) := by
  rw [scanNumber]
  intro r hr
  exact hc (List.cons.inj hr).1

theorem splits_scanNumber : Splits Stops scanNumber := by
  intro l a b h rest hrest
  unfold scanNumber at h
  split at h
  · obtain ⟨a', rfl, hscan⟩ := splits_scanMagnitude.map '-' _ _ _ h
    exact hscan rest hrest
  · have hm := splits_scanMagnitude l a b h rest hrest
    cases a with
    | nil =>
      have hnil := splits_scanMagnitude l [] b h [] stops_nil
      cases hnil
    | cons c a =>
      rw [List.cons_append, scanNumber_of_ne]
      · exact hm
      · rintro rfl
        have hnone : scanMagnitude ('-' :: (a ++ rest)) = none := by
          rw [scanMagnitude, scanInteger_of_ne (by decide)]
          rfl
        rw [List.cons_append, hnone] at hm
        cases hm

/-- A number that was scanned is a literal. -/
theorem isLiteral_of_scan {l a b : List Char} (h : scanNumber l = some (a, b)) : IsLiteral (String.ofList a) := by
  have hs := splits_scanNumber l a b h [] stops_nil
  rw [List.append_nil] at hs
  rw [IsLiteral, String.toList_ofList, hs]

/-- A number starts with its sign or a digit. -/
theorem scanNumber_head {c : Char} {l : List Char} (h : scanNumber (c :: l) ≠ none) : c = '-' ∨ c.isDigit = true := by
  by_contra hc
  obtain ⟨hm, hd⟩ := not_or.1 hc
  refine h ?_
  have h0 : c ≠ '0' := by rintro rfl; exact hd (by decide)
  have hint : scanInteger (c :: l) = none := by
    rw [scanInteger]
    · simp [scanDigits, hd]
    · intro r hr; exact h0 (List.cons.inj hr).1
  rw [scanNumber_of_ne hm, scanMagnitude, hint, Option.bind_none]

/-! ## Writers -/

section Writer

variable (escape : Char → List Char)

/-- A string between its quotes. -/
def writeString (s : String) : List Char := '"' :: (s.toList.flatMap escape ++ ['"'])

mutual

/-- The characters of a value. -/
def writeValue : Json → List Char
  | .null => "null".toList
  | .bool b => (if b then "true" else "false").toList
  | .num literal => literal.toList
  | .str s => writeString escape s
  | .arr items => '[' :: writeItems items
  | .obj members => '{' :: writeMembers members

/-- The items of an array and its closing bracket. -/
def writeItems : List Json → List Char
  | [] => [']']
  | [v] => writeValue v ++ [']']
  | v :: w :: vs => writeValue v ++ ',' :: writeItems (w :: vs)

/-- The members of an object and its closing brace. -/
def writeMembers : List (String × Json) → List Char
  | [] => ['}']
  | [(k, v)] => writeString escape k ++ ':' :: (writeValue v ++ ['}'])
  | (k, v) :: m :: ms => writeString escape k ++ ':' :: (writeValue v ++ ',' :: writeMembers (m :: ms))

end

end Writer

mutual

/-- Go's writer is the writer that escapes as `Marshal` does. -/
theorem writeValue_escapeChar : ∀ v : Json, writeValue escapeChar v = renderValue v
  | .null => rfl
  | .bool _ => rfl
  | .num _ => rfl
  | .str _ => rfl
  | .arr items => by rw [writeValue, renderValue, writeItems_escapeChar items]
  | .obj members => by rw [writeValue, renderValue, writeMembers_escapeChar members]

theorem writeItems_escapeChar : ∀ items : List Json, writeItems escapeChar items = renderItems items
  | [] => rfl
  | [v] => by rw [writeItems, renderItems, writeValue_escapeChar v]
  | v :: w :: vs => by rw [writeItems, renderItems, writeValue_escapeChar v, writeItems_escapeChar (w :: vs)]

theorem writeMembers_escapeChar : ∀ members : List (String × Json),
    writeMembers escapeChar members = renderMembers members
  | [] => rfl
  | [(k, v)] => by rw [writeMembers, renderMembers, writeValue_escapeChar v]; rfl
  | (k, v) :: m :: ms => by
    rw [writeMembers, renderMembers, writeValue_escapeChar v, writeMembers_escapeChar (m :: ms)]; rfl

end

/-- An escape the reader undoes. -/
def ReadsBack (escape : Char → List Char) : Prop :=
  ∀ c rest, parseUnits (escape c ++ rest) = consUnit (some c.toNat) (parseUnits rest)

theorem readsBack_escapeChar : ReadsBack escapeChar := parseUnits_escapeChar

/-- A value whose numbers are literals of the grammar. -/
inductive Writable : Json → Prop
  | null : Writable .null
  | bool (b : Bool) : Writable (.bool b)
  | num {literal : String} : IsLiteral literal → Writable (.num literal)
  | str (s : String) : Writable (.str s)
  | arr {items : List Json} : (∀ v ∈ items, Writable v) → Writable (.arr items)
  | obj {members : List (String × Json)} : (∀ m ∈ members, Writable m.2) → Writable (.obj members)

/-! ## Reading back -/

variable {escape : Char → List Char}

theorem parseString_write (hesc : ReadsBack escape) (s : String) (rest : List Char) :
    parseString (s.toList.flatMap escape ++ '"' :: rest) = some (s, rest) := by
  have hunits : ∀ cs : List Char,
      parseUnits (cs.flatMap escape ++ '"' :: rest) = some (cs.map Char.toNat, rest) := by
    intro cs
    induction cs with
    | nil => rfl
    | cons c cs ih => rw [List.flatMap_cons, List.append_assoc, hesc, ih]; rfl
  simp [parseString, hunits, joinUnits_map]

/-- The characters a value can start with are no white space and close nothing. -/
def opensValue (c : Char) : Bool :=
  !(c = ' ' || c = '\t' || c = '\n' || c = '\r' || c = ']' || c = '}' || c = ',')

theorem skipSpace_opens {c : Char} (h : opensValue c = true) (l : List Char) : skipSpace (c :: l) = c :: l := by
  simp only [opensValue, Bool.not_eq_true', Bool.or_eq_false_iff] at h
  simp only [skipSpace, List.dropWhile_cons, h, Bool.or_self, Bool.false_eq_true, if_false]

theorem skipSpace_quote (l : List Char) : skipSpace ('"' :: l) = '"' :: l := skipSpace_opens rfl l

theorem opensValue_number {c : Char} (h : c = '-' ∨ c.isDigit = true) : opensValue c = true := by
  by_contra hc
  simp only [opensValue, Bool.not_eq_true', Bool.not_eq_false, Bool.or_eq_true, decide_eq_true_eq] at hc
  rcases hc with (((((rfl | rfl) | rfl) | rfl) | rfl) | rfl) | rfl <;> revert h <;> decide

theorem writeValue_opens {v : Json} (h : Writable v) :
    ∃ c l, writeValue escape v = c :: l ∧ opensValue c = true := by
  cases h with
  | null => exact ⟨_, _, rfl, rfl⟩
  | bool b => cases b <;> exact ⟨_, _, rfl, rfl⟩
  | str s => exact ⟨_, _, rfl, rfl⟩
  | arr _ => exact ⟨_, _, by rw [writeValue], rfl⟩
  | obj _ => exact ⟨_, _, by rw [writeValue], rfl⟩
  | @num literal hlit =>
    rw [writeValue]
    cases hl : literal.toList with
    | nil => rw [IsLiteral, hl] at hlit; cases hlit
    | cons c l =>
      refine ⟨c, l, rfl, opensValue_number (scanNumber_head (l := l) ?_)⟩
      rw [IsLiteral, hl] at hlit
      rw [hlit]
      exact Option.some_ne_none _

/-- A text that starts as a number is read as one. -/
theorem parseValue_number {c : Char} (h : c = '-' ∨ c.isDigit = true) (fuel : Nat) (l : List Char) :
    parseValue (fuel + 1) (c :: l) = (scanNumber (c :: l)).map fun r => (.num (String.ofList r.1), r.2) := by
  rw [parseValue, skipSpace_opens (opensValue_number h)]
  split
  all_goals first
    | rfl
    | (rename_i heq
       obtain ⟨rfl, -⟩ := List.cons.inj heq
       exact absurd h (by decide))

/-- `v` is read in front of anything that does not continue a number. -/
def ReadsAs (escape : Char → List Char) (v : Json) : Prop :=
  ∀ fuel rest, 2 * (writeValue escape v).length ≤ fuel → Stops rest →
    parseValue fuel (writeValue escape v ++ rest) = some (v, rest)

theorem writeItems_cons (v : Json) (vs : List Json) :
    ∃ c rest, writeItems escape (v :: vs) = writeValue escape v ++ c :: rest ∧ continuesNumber c = false ∧
      ((c = ',' ∧ vs ≠ [] ∧ rest = writeItems escape vs) ∨ (c = ']' ∧ vs = [] ∧ rest = [])) := by
  cases vs with
  | nil => exact ⟨']', [], by rw [writeItems], rfl, Or.inr ⟨rfl, rfl, rfl⟩⟩
  | cons w vs => exact ⟨',', _, by rw [writeItems], rfl, Or.inl ⟨rfl, List.cons_ne_nil w vs, rfl⟩⟩

theorem parseItems_write : ∀ {items : List Json}, items ≠ [] → (∀ v ∈ items, Writable v) →
    (∀ v ∈ items, ReadsAs escape v) → ∀ fuel rest, 2 * (writeItems escape items).length ≤ fuel →
      parseItems fuel (writeItems escape items ++ rest) = some (items, rest)
  | [], hne, _, _, _, _, _ => absurd rfl hne
  | v :: vs, _, hw, hr, fuel, rest, hf => by
    obtain ⟨c, tail, heq, hc, hrest⟩ := @writeItems_cons escape v vs
    rw [heq] at hf ⊢
    simp only [List.length_append, List.length_cons] at hf
    obtain ⟨fuel, rfl⟩ : ∃ n, fuel = n + 1 := ⟨fuel - 1, by omega⟩
    have hv := hr v List.mem_cons_self fuel (c :: (tail ++ rest)) (by omega) (stops_cons hc)
    rw [List.append_assoc, List.cons_append, parseItems, hv]
    rcases hrest with ⟨rfl, hvs, rfl⟩ | ⟨rfl, rfl, rfl⟩
    · have ih := parseItems_write hvs (fun w hw' => hw w (List.mem_cons_of_mem v hw'))
        (fun w hw' => hr w (List.mem_cons_of_mem v hw')) fuel rest (by omega)
      have hskip : ∀ l, skipSpace (',' :: l) = ',' :: l := fun _ => rfl
      simp [hskip, ih]
    · have hskip : skipSpace (']' :: rest) = ']' :: rest := rfl
      simp [hskip]

theorem writeMembers_cons (k : String) (v : Json) (ms : List (String × Json)) :
    ∃ c rest, writeMembers escape ((k, v) :: ms) =
        '"' :: (k.toList.flatMap escape ++ '"' :: ':' :: (writeValue escape v ++ c :: rest)) ∧
      continuesNumber c = false ∧
      ((c = ',' ∧ ms ≠ [] ∧ rest = writeMembers escape ms) ∨ (c = '}' ∧ ms = [] ∧ rest = [])) := by
  cases ms with
  | nil => exact ⟨'}', [], by simp [writeMembers, writeString], rfl, Or.inr ⟨rfl, rfl, rfl⟩⟩
  | cons m ms =>
    exact ⟨',', _, by simp [writeMembers, writeString], rfl, Or.inl ⟨rfl, List.cons_ne_nil m ms, rfl⟩⟩

theorem parseMembers_write (hesc : ReadsBack escape) : ∀ {members : List (String × Json)}, members ≠ [] →
    (∀ m ∈ members, Writable m.2) → (∀ m ∈ members, ReadsAs escape m.2) →
    ∀ fuel rest, 2 * (writeMembers escape members).length ≤ fuel →
      parseMembers fuel (writeMembers escape members ++ rest) = some (members, rest)
  | [], hne, _, _, _, _, _ => absurd rfl hne
  | (k, v) :: ms, _, hw, hr, fuel, rest, hf => by
    obtain ⟨c, tail, heq, hc, hrest⟩ := @writeMembers_cons escape k v ms
    rw [heq] at hf ⊢
    simp only [List.length_append, List.length_cons] at hf
    obtain ⟨fuel, rfl⟩ : ∃ n, fuel = n + 1 := ⟨fuel - 1, by omega⟩
    have hk := parseString_write hesc k (':' :: (writeValue escape v ++ c :: (tail ++ rest)))
    have hv : parseValue fuel (writeValue escape v ++ c :: (tail ++ rest)) = some (v, c :: (tail ++ rest)) :=
      hr (k, v) List.mem_cons_self fuel _ (by show 2 * (writeValue escape v).length ≤ fuel; omega) (stops_cons hc)
    have hcolon : ∀ l, skipSpace (':' :: l) = ':' :: l := fun _ => rfl
    simp only [List.cons_append, List.append_assoc]
    rw [parseMembers, skipSpace_quote]
    simp only [hk, hcolon, hv]
    rcases hrest with ⟨rfl, hms, rfl⟩ | ⟨rfl, rfl, rfl⟩
    · have ih := parseMembers_write hesc hms (fun m hm => hw m (List.mem_cons_of_mem _ hm))
        (fun m hm => hr m (List.mem_cons_of_mem _ hm)) fuel rest (by omega)
      have hskip : ∀ l, skipSpace (',' :: l) = ',' :: l := fun _ => rfl
      simp [hskip, ih]
    · have hskip : skipSpace ('}' :: rest) = '}' :: rest := rfl
      simp [hskip]

theorem writeItems_opens {items : List Json} (hne : items ≠ []) (hw : ∀ v ∈ items, Writable v) :
    ∃ c l, writeItems escape items = c :: l ∧ opensValue c = true := by
  obtain ⟨v, vs, rfl⟩ := List.exists_cons_of_ne_nil hne
  obtain ⟨c, tail, heq, -, -⟩ := @writeItems_cons escape v vs
  obtain ⟨d, l, hd, ho⟩ := @writeValue_opens escape _ (hw v List.mem_cons_self)
  exact ⟨d, l ++ c :: tail, by rw [heq, hd]; rfl, ho⟩

/-- One value is read back, whatever follows it. -/
theorem parseValue_write (hesc : ReadsBack escape) {v : Json} (h : Writable v) : ReadsAs escape v := by
  induction h with
  | null =>
    intro fuel rest hf _
    obtain ⟨fuel, rfl⟩ : ∃ n, fuel = n + 1 := ⟨fuel - 1, by simp [writeValue] at hf; omega⟩
    rfl
  | bool b =>
    intro fuel rest hf _
    obtain ⟨fuel, rfl⟩ : ∃ n, fuel = n + 1 := ⟨fuel - 1, by cases b <;> simp [writeValue] at hf <;> omega⟩
    cases b <;> rfl
  | @num literal hlit =>
    intro fuel rest hf hrest
    have hscan := splits_scanNumber _ _ _ hlit rest hrest
    rw [writeValue] at hf ⊢
    cases hl : literal.toList with
    | nil => rw [IsLiteral, hl] at hlit; cases hlit
    | cons c l =>
      rw [hl] at hf hscan
      rw [IsLiteral, hl] at hlit
      obtain ⟨fuel, rfl⟩ : ∃ n, fuel = n + 1 := ⟨fuel - 1, by simp only [List.length_cons] at hf; omega⟩
      have hc := scanNumber_head (c := c) (l := l) (by rw [hlit]; exact Option.some_ne_none _)
      rw [List.cons_append, parseValue_number hc, ← List.cons_append, hscan, Option.map_some]
      simp [← hl]
  | str s =>
    intro fuel rest hf _
    obtain ⟨fuel, rfl⟩ : ∃ n, fuel = n + 1 := ⟨fuel - 1, by simp [writeValue, writeString] at hf; omega⟩
    have hs := parseString_write hesc s rest
    simp only [writeValue, writeString, List.cons_append, List.append_assoc, List.nil_append]
    rw [parseValue, skipSpace_quote]
    simp [hs]
  | @arr items hw ih =>
    intro fuel rest hf _
    rw [writeValue] at hf ⊢
    simp only [List.length_cons] at hf
    obtain ⟨fuel, rfl⟩ : ∃ n, fuel = n + 1 := ⟨fuel - 1, by omega⟩
    rw [List.cons_append, parseValue, skipSpace_opens (c := '[') rfl]
    by_cases hne : items = []
    · subst hne
      rfl
    · obtain ⟨c, l, hl, ho⟩ := @writeItems_opens escape _ hne hw
      have hitems := parseItems_write hne hw ih fuel rest (by omega)
      have hskip : skipSpace (writeItems escape items ++ rest) = writeItems escape items ++ rest := by
        rw [hl]
        exact skipSpace_opens ho _
      have hclose : ∀ r, writeItems escape items ++ rest ≠ ']' :: r := by
        intro r hr
        rw [hl] at hr
        rw [(List.cons.inj hr).1] at ho
        cases ho
      simp only [hskip]
      rw [hitems]
      rfl
  | @obj members hw ih =>
    intro fuel rest hf _
    rw [writeValue] at hf ⊢
    simp only [List.length_cons] at hf
    obtain ⟨fuel, rfl⟩ : ∃ n, fuel = n + 1 := ⟨fuel - 1, by omega⟩
    rw [List.cons_append, parseValue, skipSpace_opens (c := '{') rfl]
    by_cases hne : members = []
    · subst hne
      rfl
    · obtain ⟨⟨k, v⟩, ms, rfl⟩ := List.exists_cons_of_ne_nil hne
      have hmembers := parseMembers_write hesc hne hw ih fuel rest (by omega)
      obtain ⟨c, tail, heq, -, -⟩ := @writeMembers_cons escape k v ms
      have hskip : skipSpace (writeMembers escape ((k, v) :: ms) ++ rest) =
          writeMembers escape ((k, v) :: ms) ++ rest := by
        rw [heq]
        rfl
      simp only [hskip]
      split
      · rename_i h'
        rw [heq] at h'
        exact absurd (List.cons.inj h').1 (by decide)
      · rw [hmembers]
        rfl

/-- What a writer wrote reads back as the value it wrote. -/
theorem read_write (hesc : ReadsBack escape) {v : Json} (h : Writable v) :
    read (String.ofList (writeValue escape v)) = some v := by
  have hlen : (String.ofList (writeValue escape v)).length = (writeValue escape v).length := by simp
  have hv := parseValue_write hesc h (2 * (writeValue escape v).length + 2) [] (by omega) stops_nil
  rw [List.append_nil] at hv
  simp [read, hlen, hv, skipSpace]

/-- A marshalled value reads back. -/
theorem read_render {v : Json} (h : Writable v) : read (render v) = some v := by
  rw [render, ← writeValue_escapeChar]
  exact read_write readsBack_escapeChar h

/-! ## Decimal integers -/

theorem digitChar_ne_zero : ∀ d < 10, 0 < d → Nat.digitChar d ≠ '0' := by decide

/-- A positive number has no leading zero. -/
theorem head_toDigits (n : Nat) : 0 < n → (Nat.toDigits 10 n).head? ≠ some '0' := by
  induction n using Nat.strongRecOn with
  | _ n ih =>
    intro hn
    by_cases h : n < 10
    · rw [Nat.toDigits_of_lt_base h]
      simpa using digitChar_ne_zero n h hn
    · have hlen : Nat.toDigits 10 (n / 10) ≠ [] := Nat.toDigits_ne_nil
      rw [Nat.toDigits_of_base_le (by decide) (by omega), List.head?_append_of_ne_nil _ hlen]
      exact ih (n / 10) (by omega) (by omega)

theorem scanMagnitude_repr (n : Nat) : scanMagnitude n.repr.toList = some (n.repr.toList, []) := by
  have hint : scanInteger n.repr.toList = some (n.repr.toList, []) := by
    by_cases hn : n = 0
    · subst hn
      decide
    · have hd : ∀ c ∈ n.repr.toList, c.isDigit = true := fun c => Strings.isDigit_of_mem_repr
      have hhead : n.repr.toList.head? ≠ some '0' := by
        rw [Nat.toList_repr]
        exact head_toDigits n (by omega)
      rw [scanInteger]
      · unfold scanDigits
        rw [List.takeWhile_eq_self_iff.2 hd, List.dropWhile_eq_nil_iff.2 hd, if_neg (by simp)]
      · intro r hr
        rw [hr] at hhead
        exact hhead rfl
  rw [scanMagnitude, hint]
  simp [scanFraction, scanExponent]

/-- A decimal integer is a literal. -/
theorem isLiteral_itoa (n : Int) : IsLiteral (Strings.itoa n) := by
  unfold IsLiteral Strings.itoa
  rw [Int.toString_eq_repr, Int.repr_eq_if]
  split
  · have hhead : ∀ r, n.toNat.repr.toList ≠ '-' :: r := by
      intro r hr
      have := Strings.isDigit_of_mem_repr (n := n.toNat) (c := '-') (by rw [hr]; exact List.mem_cons_self)
      cases this
    rw [scanNumber, scanMagnitude_repr]
    exact hhead
  · rw [String.toList_append]
    show (scanMagnitude (-n).toNat.repr.toList).map _ = _
    rw [scanMagnitude_repr]
    rfl

/-! ## What is read can be written -/

/-- What a nested call reads has numbers of the grammar only. -/
structure ReadsWritable (fuel : Nat) : Prop where
  value : ∀ l v rest, parseValue fuel l = some (v, rest) → Writable v
  items : ∀ l vs rest, parseItems fuel l = some (vs, rest) → ∀ v ∈ vs, Writable v
  members : ∀ l ms rest, parseMembers fuel l = some (ms, rest) → ∀ m ∈ ms, Writable m.2

theorem writable_value {fuel : Nat} (ih : ReadsWritable fuel) {l : List Char} {v : Json} {rest : List Char}
    (h : parseValue (fuel + 1) l = some (v, rest)) : Writable v := by
  rw [parseValue] at h
  split at h
  · obtain ⟨r, -, hr⟩ := Option.map_eq_some_iff.1 h
    cases hr
    exact .str _
  · split at h
    · cases h
      exact .arr fun v hv => absurd hv List.not_mem_nil
    · obtain ⟨r, hitems, hr⟩ := Option.map_eq_some_iff.1 h
      cases hr
      exact .arr (ih.items _ _ _ hitems)
  · split at h
    · cases h
      exact .obj fun m hm => absurd hm List.not_mem_nil
    · obtain ⟨r, hmembers, hr⟩ := Option.map_eq_some_iff.1 h
      cases hr
      exact .obj (ih.members _ _ _ hmembers)
  · cases h
    exact .null
  · cases h
    exact .bool true
  · cases h
    exact .bool false
  · obtain ⟨r, hscan, hr⟩ := Option.map_eq_some_iff.1 h
    cases hr
    exact .num (isLiteral_of_scan hscan)

theorem writable_items {fuel : Nat} (ih : ReadsWritable fuel) {l : List Char} {vs : List Json} {rest : List Char}
    (h : parseItems (fuel + 1) l = some (vs, rest)) : ∀ v ∈ vs, Writable v := by
  rw [parseItems] at h
  split at h
  · cases h
  · rename_i v _ hv
    have hw := ih.value _ _ _ hv
    split at h
    · obtain ⟨r, hitems, hr⟩ := Option.map_eq_some_iff.1 h
      cases hr
      exact List.forall_mem_cons.2 ⟨hw, ih.items _ _ _ hitems⟩
    · cases h
      simpa using hw
    · cases h

theorem writable_members {fuel : Nat} (ih : ReadsWritable fuel) {l : List Char} {ms : List (String × Json)}
    {rest : List Char} (h : parseMembers (fuel + 1) l = some (ms, rest)) : ∀ m ∈ ms, Writable m.2 := by
  rw [parseMembers] at h
  split at h
  · split at h
    · cases h
    · split at h
      · split at h
        · cases h
        · rename_i v _ hv
          have hw := ih.value _ _ _ hv
          split at h
          · obtain ⟨r, hmembers, hr⟩ := Option.map_eq_some_iff.1 h
            cases hr
            exact List.forall_mem_cons.2 ⟨hw, ih.members _ _ _ hmembers⟩
          · cases h
            simpa using hw
          · cases h
      · cases h
  · cases h

theorem readsWritable (fuel : Nat) : ReadsWritable fuel := by
  induction fuel with
  | zero => constructor <;> rintro l v rest ⟨⟩
  | succ fuel ih =>
    constructor
    · intro l v rest h
      exact writable_value ih h
    · intro l vs rest h
      exact writable_items ih h
    · intro l ms rest h
      exact writable_members ih h

/-- The value of a text can be written. -/
theorem writable_of_read {s : String} {v : Json} (h : read s = some v) : Writable v := by
  unfold read at h
  split at h
  · rename_i hv
    split at h
    · cases h
      exact (readsWritable _).value _ _ _ hv
    · cases h
  · cases h

theorem writable_of_parse {s : String} {v : Json} (h : parse s = some v) : Writable v :=
  writable_of_read (parse_eq_some.1 h).1

/-- Some text reads as a value exactly when the value can be written. -/
theorem exists_read_iff {v : Json} : (∃ s, read s = some v) ↔ Writable v :=
  ⟨fun ⟨_, h⟩ => writable_of_read h, fun h => ⟨render v, read_render h⟩⟩

theorem Writable.of_arr {items : List Json} (h : Writable (.arr items)) : ∀ v ∈ items, Writable v := by
  cases h with
  | arr h => exact h

theorem Writable.of_obj {members : List (String × Json)} (h : Writable (.obj members)) :
    ∀ m ∈ members, Writable m.2 := by
  cases h with
  | obj h => exact h

/-! ## Members that can be left out -/

/-- A member that is left out when its value is absent: Go's `omitempty`, an undefined property in JavaScript. -/
def omitEmpty (key : String) (v : Option Json) : List (String × Json) := (v.map fun v => (key, v)).toList

theorem writable_omitEmpty {key : String} {v : Option Json} (h : ∀ w ∈ v, Writable w) :
    ∀ m ∈ omitEmpty key v, Writable m.2 := by
  intro m hm
  cases v with
  | none => cases hm
  | some w =>
    rw [omitEmpty, Option.map_some, Option.toList_some, List.mem_singleton] at hm
    rw [hm]
    exact h w rfl

theorem writable_num (n : Int) : Writable (.num (Strings.itoa n)) := .num (isLiteral_itoa n)

/-! ## JavaScript's writer -/

/-- How `JSON.stringify` writes a character of a string. -/
def stringifyChar (c : Char) : List Char :=
  if c = '"' then ['\\', '"']
  else if c = '\\' then ['\\', '\\']
  else if c = '\x08' then ['\\', 'b']
  else if c = '\x0c' then ['\\', 'f']
  else if c = '\n' then ['\\', 'n']
  else if c = '\r' then ['\\', 'r']
  else if c = '\t' then ['\\', 't']
  else if c.toNat < 32 then unicodeEscape c.toNat
  else [c]

/-- `JSON.stringify`. -/
def stringify (v : Json) : String := String.ofList (writeValue stringifyChar v)

theorem readsBack_stringifyChar : ReadsBack stringifyChar := by
  intro c rest
  unfold stringifyChar
  split
  · rename_i h; subst h; rfl
  rename_i hq
  split
  · rename_i h; subst h; rfl
  rename_i hb
  split
  · rename_i h; subst h; rfl
  split
  · rename_i h; subst h; rfl
  split
  · rename_i h; subst h; rfl
  split
  · rename_i h; subst h; rfl
  split
  · rename_i h; subst h; rfl
  split
  · exact parseUnits_unicodeEscape (by omega) rest
  · rename_i hc
    exact parseUnits_plain hq hb hc rest

theorem read_stringify {v : Json} (h : Writable v) : read (stringify v) = some v :=
  read_write readsBack_stringifyChar h

theorem parse_stringify {v : Json} (h : Writable v) (hdepth : v.depth ≤ maxNestingDepth) :
    parse (stringify v) = some v :=
  parse_eq_some.2 ⟨read_stringify h, hdepth⟩

/-! ## The brackets of a text -/

theorem writeItems_last : ∀ items : List Json, ∃ l, writeItems escape items = l ++ [']']
  | [] => ⟨[], rfl⟩
  | [v] => ⟨writeValue escape v, by rw [writeItems]⟩
  | v :: w :: vs => by
    obtain ⟨l, hl⟩ := writeItems_last (w :: vs)
    exact ⟨writeValue escape v ++ ',' :: l, by rw [writeItems, hl, List.append_assoc, List.cons_append]⟩

theorem writeMembers_last : ∀ members : List (String × Json), ∃ l, writeMembers escape members = l ++ ['}']
  | [] => ⟨[], rfl⟩
  | [(k, v)] => ⟨writeString escape k ++ ':' :: writeValue escape v, by simp [writeMembers]⟩
  | (k, v) :: m :: ms => by
    obtain ⟨l, hl⟩ := writeMembers_last (m :: ms)
    exact ⟨writeString escape k ++ ':' :: (writeValue escape v ++ ',' :: l), by simp [writeMembers, hl]⟩

/-- The text of an object or an array has nothing around its brackets to trim. -/
theorem trimSpace_write {v : Json} (h : (∃ members, v = .obj members) ∨ ∃ items, v = .arr items) :
    Strings.trimSpace (String.ofList (writeValue escape v)) = String.ofList (writeValue escape v) := by
  have hbrackets : ∃ a b l, writeValue escape v = a :: (l ++ [b]) ∧ Strings.isSpace a = false ∧
      Strings.isSpace b = false := by
    rcases h with ⟨members, rfl⟩ | ⟨items, rfl⟩
    · obtain ⟨l, hl⟩ := @writeMembers_last escape members
      exact ⟨'{', '}', l, by rw [writeValue, hl], by decide, by decide⟩
    · obtain ⟨l, hl⟩ := @writeItems_last escape items
      exact ⟨'[', ']', l, by rw [writeValue, hl], by decide, by decide⟩
  obtain ⟨a, b, l, hv, ha, hb⟩ := hbrackets
  refine Strings.trimSpace_eq_self ?_ ?_
  · simp only [hv, String.toList_ofList]
    intro _
    exact ha
  · simp only [hv, String.toList_ofList]
    intro _
    rw [List.getLast_cons (by simp), List.getLast_append_singleton]
    exact hb

end Json
