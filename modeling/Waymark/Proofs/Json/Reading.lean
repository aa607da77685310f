import Waymark.Proofs.Json.Numbers

/-! Reading gives back what was written. -/

namespace Waymark.Json
variable {t rest : List Char} {c d : Char} {v : Json} {vs : List Json} {k : String}
  {e : String × Json} {es : List (String × Json)} {depth limit : Nat}

theorem stringTail_letter (hc : c ≠ 'u') (h : unescape? c = some d) :
    stringTail ('\\' :: c :: rest) = (stringTail rest).map fun p => (d :: p.1, p.2) := by
  rw [stringTail.eq_4 c rest (by simp [hc]), h]
  cases stringTail rest <;> rfl

theorem digit?_hexDigit : ∀ n < 16, Text.digit? (hexDigit n) = some n := by decide

theorem stringTail_control (h : c.toNat < 0x20) :
    stringTail (['\\', 'u', '0', '0', hexDigit (c.toNat / 16), hexDigit (c.toNat % 16)] ++ rest) =
      (stringTail rest).map fun p => (c :: p.1, p.2) := by
  have hzero : Text.digit? '0' = some 0 := rfl
  have hhigh := digit?_hexDigit (c.toNat / 16) (by omega)
  have hlow := digit?_hexDigit (c.toNat % 16) (by omega)
  have hquad : hexQuad? '0' '0' (hexDigit (c.toNat / 16)) (hexDigit (c.toNat % 16)) =
      some c.toNat := by
    simp only [hexQuad?, hzero, hhigh, hlow, Option.some.injEq]
    omega
  simp only [List.cons_append, List.nil_append, stringTail, hquad]
  rw [if_neg (by omega), if_neg (by omega), Char.ofNat_toNat]
  cases stringTail rest <;> rfl

theorem stringTail_plain (hquote : c ≠ '"') (hslash : c ≠ '\\') (h : ¬c.toNat < 0x20) :
    stringTail (c :: rest) = (stringTail rest).map fun p => (c :: p.1, p.2) := by
  rw [stringTail.eq_5 c rest hquote (by simp [hslash]) (by simp [hslash]), if_neg (by simp_all)]
  cases stringTail rest <;> rfl

/-- What stands for a character is read as this character. -/
theorem stringTail_escape (c : Char) (rest : List Char) :
    stringTail (escape c ++ rest) = (stringTail rest).map fun p => (c :: p.1, p.2) := by
  unfold escape
  split
  · next h => exact stringTail_letter (by decide) (by rw [h]; rfl)
  split
  · next h => exact stringTail_letter (by decide) (by rw [h]; rfl)
  split
  · next h => exact stringTail_letter (by decide) (by rw [h]; rfl)
  split
  · next h => exact stringTail_letter (by decide) (by rw [h]; rfl)
  split
  · next h => exact stringTail_letter (by decide) (by rw [h]; rfl)
  split
  · next h => exact stringTail_letter (by decide) (by rw [h]; rfl)
  split
  · next h => exact stringTail_letter (by decide) (by rw [h]; rfl)
  split
  · next h => exact stringTail_control h
  · next hquote hslash _ _ _ _ _ h => exact stringTail_plain hquote hslash h

/-- A string ends at its closing quote and nowhere before. -/
theorem stringTail_flatMap_escape (t rest : List Char) :
    stringTail (t.flatMap escape ++ '"' :: rest) = some (t, rest) := by
  induction t with
  | nil => rfl
  | cons c t ih => simp [stringTail_escape, ih]

theorem skipSpace_cons (h : isSpace c = false) : skipSpace (c :: t) = c :: t := by
  simp [skipSpace, h]

theorem isSpace_of_isDigit (h : c.isDigit = true) : isSpace c = false := by
  by_contra hspace
  simp only [isSpace, Bool.not_eq_false, Bool.or_eq_true, beq_iff_eq] at hspace
  obtain ((rfl | rfl) | rfl) | rfl := hspace <;> revert h <;> decide

theorem value_string (s : String) (rest : List Char) :
    value depth (renderString s ++ rest) = some (string s, rest) := by
  unfold value
  simp [renderString, skipSpace_cons (c := '"') rfl, stringTail_flatMap_escape]

/-- A number is read as one wherever a value may stand. -/
theorem value_number {u : List Char} (h : number false t = some (v, u)) :
    value depth t = some (v, u) := by
  obtain ⟨c, t', rfl, hc⟩ := isDigit_of_number h
  unfold value
  rw [skipSpace_cons (isSpace_of_isDigit hc)]
  split <;> simp_all [Char.isDigit]

theorem value_negated (t : List Char) : value depth ('-' :: t) = number true t := by
  unfold value
  simp [skipSpace_cons (c := '-') rfl]

/-- The values that are read as they were written, if they are nested no deeper than `depth`: an
integer has to fit into 64 bits, and a floating-point number has to be the one that its own text
is read as. -/
inductive Kept : (depth : Nat) → Json → Prop
  | null {depth : Nat} : Kept depth null
  | bool {depth : Nat} (b : Bool) : Kept depth (bool b)
  | nat {depth n : Nat} : n ≤ maxNat → Kept depth (int n)
  | negated {depth n : Nat} : 0 < n → n ≤ maxNegated → Kept depth (int (-(n : Int)))
  | float {depth : Nat} {negative : Bool} {x : Binary64} :
    number negative x.text = some (float negative x, []) → Kept depth (float negative x)
  | string {depth : Nat} (s : String) : Kept depth (string s)
  | array {depth : Nat} {vs : List Json} : (∀ v ∈ vs, Kept depth v) → Kept (depth + 1) (array vs)
  | object {depth : Nat} {es : List (String × Json)} :
    (∀ e ∈ es, Kept depth e.2) → Kept (depth + 1) (object es)

/-- Where a value ends can be seen from what may follow it in an array or an object. -/
def Readable (depth : Nat) (v : Json) : Prop :=
  ∀ rest, Apart rest → value depth (v.render ++ rest) = some (v, rest)

/-- No value is written with a space or a bracket that closes at its front. -/
theorem render_head (h : Kept depth v) :
    ∃ c t, v.render = c :: t ∧ isSpace c = false ∧ c ≠ ']' := by
  have hdigit : ∀ {negative : Bool} {t u : List Char} {v : Json},
      number negative t = some (v, u) → ∃ c t', t = c :: t' ∧ isSpace c = false ∧ c ≠ ']' := by
    intro negative t u v h
    obtain ⟨c, t', ht, hc⟩ := isDigit_of_number h
    exact ⟨c, t', ht, isSpace_of_isDigit hc, fun hclose => by simp [hclose] at hc⟩
  cases h with
  | null => exact ⟨_, _, rfl, rfl, by decide⟩
  | bool b => cases b <;> exact ⟨_, _, rfl, rfl, by decide⟩
  | nat hn => exact hdigit (number_nat hn)
  | @negated _ n hpos hn =>
    obtain ⟨m, rfl⟩ := Nat.exists_eq_add_one_of_ne_zero hpos.ne'
    exact ⟨_, _, rfl, rfl, by decide⟩
  | @float _ negative x hx =>
    cases negative with
    | false => exact hdigit hx
    | true => exact ⟨_, _, rfl, rfl, by decide⟩
  | string s => exact ⟨_, _, rfl, rfl, by decide⟩
  | @array _ vs _ => cases vs <;> exact ⟨_, _, rfl, rfl, by decide⟩
  | @object _ es _ => cases es <;> exact ⟨_, _, rfl, rfl, by decide⟩

theorem apart_renderItems (vs : List Json) (rest : List Char) :
    Apart (renderItems vs ++ rest) := by
  cases vs <;> exact .cons (by decide)

theorem apart_renderEntries (es : List (String × Json)) (rest : List Char) :
    Apart (renderEntries es ++ rest) := by
  cases es <;> exact .cons (by decide)

theorem length_renderItems (vs : List Json) : vs.length < (renderItems vs).length := by
  induction vs with
  | nil => simp [renderItems]
  | cons v vs ih =>
    simp only [renderItems, List.length_cons, List.length_append]
    omega

theorem length_renderEntries (es : List (String × Json)) :
    es.length < (renderEntries es).length := by
  induction es with
  | nil => simp [renderEntries]
  | cons e es ih =>
    simp only [renderEntries, List.length_cons, List.length_append]
    omega

theorem items_render (hv : Readable depth v) (hvs : ∀ w ∈ vs, Readable depth w)
    (h : vs.length < limit) (rest : List Char) :
    items (value depth) limit (v.render ++ (renderItems vs ++ rest)) = some (v :: vs, rest) := by
  induction vs generalizing v limit with
  | nil =>
    obtain ⟨limit, rfl⟩ := Nat.exists_eq_add_one_of_ne_zero (Nat.ne_zero_of_lt h)
    rw [items.eq_2, hv _ (apart_renderItems _ _)]
    rfl
  | cons w vs ih =>
    obtain ⟨limit, rfl⟩ := Nat.exists_eq_add_one_of_ne_zero (Nat.ne_zero_of_lt h)
    have hrest := ih (hvs w List.mem_cons_self) (fun w' hw' => hvs w' (List.mem_cons_of_mem w hw'))
      (Nat.lt_of_succ_lt_succ h)
    rw [items.eq_2, hv _ (apart_renderItems _ _)]
    simp only [renderItems, List.cons_append, List.append_assoc, skipSpace_cons (c := ',') rfl,
      hrest]

/-- An entry as it is written behind a brace or a comma. -/
def renderEntry (e : String × Json) : List Char := renderString e.1 ++ ':' :: e.2.render

theorem entry_render (he : Readable depth e.2) (h : Apart rest) :
    entry (value depth) (renderEntry e ++ rest) = some (e, rest) := by
  unfold entry
  simp only [renderEntry, renderString, List.cons_append, List.append_assoc,
    skipSpace_cons (c := '"') rfl, List.nil_append, stringTail_flatMap_escape,
    skipSpace_cons (c := ':') rfl, he rest h, String.ofList_toList]

theorem entries_render (he : Readable depth e.2) (hes : ∀ e' ∈ es, Readable depth e'.2)
    (h : es.length < limit) (rest : List Char) :
    entries (value depth) limit (renderEntry e ++ (renderEntries es ++ rest)) =
      some (e :: es, rest) := by
  induction es generalizing e limit with
  | nil =>
    obtain ⟨limit, rfl⟩ := Nat.exists_eq_add_one_of_ne_zero (Nat.ne_zero_of_lt h)
    rw [entries.eq_2, entry_render he (apart_renderEntries _ _)]
    rfl
  | cons e' es ih =>
    obtain ⟨limit, rfl⟩ := Nat.exists_eq_add_one_of_ne_zero (Nat.ne_zero_of_lt h)
    have hrest := ih (hes e' List.mem_cons_self) (fun f hf => hes f (List.mem_cons_of_mem e' hf))
      (Nat.lt_of_succ_lt_succ h)
    have hcomma : renderEntries (e' :: es) ++ rest =
        ',' :: (renderEntry e' ++ (renderEntries es ++ rest)) := by
      simp [renderEntries, renderEntry]
    rw [entries.eq_2, entry_render he (apart_renderEntries _ _), hcomma]
    simp only [skipSpace_cons (c := ',') rfl, hrest]

theorem readable_array (hvs : ∀ v ∈ vs, Kept depth v) (ih : ∀ v ∈ vs, Readable depth v) :
    Readable (depth + 1) (array vs) := by
  intro rest _
  -- The limit of the reader is the length of what is left, which no number of items reaches.
  cases vs with
  | nil => rfl
  | cons v vs =>
    have hlimit : vs.length < (v.render ++ (renderItems vs ++ rest)).length := by
      have := length_renderItems vs
      simp only [List.length_append]
      omega
    have hitems := items_render (ih v List.mem_cons_self)
      (fun w hw => ih w (List.mem_cons_of_mem v hw)) hlimit rest
    obtain ⟨c, t, hv, hspace, hclose⟩ := render_head (hvs v List.mem_cons_self)
    rw [value.eq_1]
    simp only [render, List.cons_append, List.append_assoc, skipSpace_cons (c := '[') rfl]
    rw [hv] at hitems ⊢
    rw [List.cons_append] at hitems ⊢
    rw [skipSpace_cons hspace]
    split
    · next heq => exact absurd (List.cons.inj heq).1 hclose
    · rw [hitems]
      rfl

theorem readable_object (ih : ∀ e ∈ es, Readable depth e.2) :
    Readable (depth + 1) (object es) := by
  intro rest _
  cases es with
  | nil => rfl
  | cons e es =>
    have hlimit : es.length < (renderEntry e ++ (renderEntries es ++ rest)).length := by
      have := length_renderEntries es
      simp only [List.length_append]
      omega
    have hentries := entries_render (ih e List.mem_cons_self)
      (fun f hf => ih f (List.mem_cons_of_mem e hf)) hlimit rest
    have hbrace : (object (e :: es)).render ++ rest =
        '\x7b' :: '"' :: (e.1.toList.flatMap escape ++ ['"'] ++ ':' :: e.2.render ++
          (renderEntries es ++ rest)) := by
      simp [render, renderString]
    have hentry : renderEntry e ++ (renderEntries es ++ rest) =
        '"' :: (e.1.toList.flatMap escape ++ ['"'] ++ ':' :: e.2.render ++
          (renderEntries es ++ rest)) := by
      simp [renderEntry, renderString]
    rw [hentry] at hentries
    rw [value.eq_1, hbrace]
    simp only [skipSpace_cons (c := '\x7b') rfl, skipSpace_cons (c := '"') rfl, hentries]
    rfl

/-- A value is read as it was written, whatever follows it. -/
theorem readable_of_kept (h : Kept depth v) : Readable depth v := by
  induction h with
  | null => exact fun rest _ => value.eq_1 _ _
  | bool b => cases b <;> exact fun rest _ => value.eq_1 _ _
  | nat hn => exact fun rest hrest => value_number (number_append hrest (number_nat hn))
  | @negated _ n hpos hn =>
    intro rest hrest
    obtain ⟨m, rfl⟩ := Nat.exists_eq_add_one_of_ne_zero hpos.ne'
    exact (value_negated _).trans (number_append hrest (number_negated hpos hn))
  | @float _ negative x hx =>
    intro rest hrest
    cases negative with
    | false => exact value_number (number_append hrest hx)
    | true => exact (value_negated _).trans (number_append hrest hx)
  | string s => exact fun rest _ => value_string s rest
  | array hvs ih => exact readable_array hvs ih
  | object _ ih => exact readable_object ih

/-- A text that was written for a value is read as this value. -/
theorem readRaw?_render (h : Kept maxDepth v) : readRaw? v.render = some v := by
  have hread := readable_of_kept h [] .nil
  rw [List.append_nil] at hread
  rw [readRaw?, hread]
  rfl

-- Not every floating-point number is kept: the digits of this one are rounded before they are
-- scaled, and its neighbour is read.
example : (readRaw? "1.2088995980580641".toList).map render =
    some "1.208899598058064".toList := by
  decide +kernel

end Waymark.Json
