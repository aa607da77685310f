import Mathlib.Data.List.TakeWhile
import Waymark.Anchor.Editor
import Waymark.Proofs.Text.Lines

/-! The uri that is written for a path is read as this path, but for what the names leave open. -/

namespace Waymark

/-- What a check of all byte values says of every byte. -/
theorem of_forall_lt_256 {P : UInt8 → Prop} (h : ∀ n < 256, P (UInt8.ofNat n)) (b : UInt8) :
    P b := by
  have hb := h b.toNat b.toNat_lt
  rwa [UInt8.ofNat_toNat] at hb

namespace Percent
variable {b : UInt8} {bytes rest : Bytes} {p : UInt8 → Bool}

theorem decode_cons_of_ne (h : b ≠ sign) : decode (b :: rest) = b :: decode rest := by
  match rest with
  | [] => rfl
  | [_] => rfl
  | _ :: _ :: _ => exact if_neg h

/-- The byte of a hexadecimal digit. -/
def hexByte (n : Nat) : UInt8 := UInt8.ofNat (hexDigit n).toNat

theorem pair?_hexByte (b : UInt8) :
    Text.toBytes (encodeByte b) = [sign, hexByte (b.toNat / 16), hexByte (b.toNat % 16)] ∧
      pair? (hexByte (b.toNat / 16)) (hexByte (b.toNat % 16)) = some b :=
  of_forall_lt_256 (P := fun b =>
    Text.toBytes (encodeByte b) = [sign, hexByte (b.toNat / 16), hexByte (b.toNat % 16)] ∧
      pair? (hexByte (b.toNat / 16)) (hexByte (b.toNat % 16)) = some b) (by decide +kernel) b

theorem decode_encodeByte (b : UInt8) (rest : Bytes) :
    decode (Text.toBytes (encodeByte b) ++ rest) = b :: decode rest := by
  obtain ⟨hbytes, hpair⟩ := pair?_hexByte b
  rw [hbytes]
  simp [decode, hpair]

theorem toBytes_plain (h : b < 0x80) : Text.toBytes [Char.ofNat b.toNat] = [b] :=
  of_forall_lt_256 (P := fun b => b < 0x80 → Text.toBytes [Char.ofNat b.toNat] = [b])
    (by decide +kernel) b h

/-- What is written with percent signs is read back if the signs are, and all that is no plain
character. -/
theorem decode_encode (hsign : p sign = true) (hplain : ∀ b, p b = false → b < 0x80)
    (bytes : Bytes) : decode (Text.toBytes (encode p bytes)) = bytes := by
  induction bytes with
  | nil => rfl
  | cons b bytes ih =>
    have hcons : encode p (b :: bytes) =
        (if p b then encodeByte b else [Char.ofNat b.toNat]) ++ encode p bytes := rfl
    rw [hcons, Text.toBytes_append]
    split
    · rw [decode_encodeByte, ih]
    · next hb =>
      have hlt := hplain b (by simpa using hb)
      have hne : b ≠ sign := by
        rintro rfl
        exact hb hsign
      rw [toBytes_plain hlt, List.singleton_append, decode_cons_of_ne hne, ih]

end Percent

namespace Path
variable {p : Path} {bs : Bytes} {name : Name} {names : List Name}

/-- Names behind slashes. -/
def rooted (names : List Name) : Bytes := names.flatMap (slash :: ·)

theorem split_append (h : slash ∉ name) (hbs : split bs = [] :: names) :
    split (name ++ bs) = name :: names := by
  induction name with
  | nil => exact hbs
  | cons b name ih =>
    rw [List.mem_cons, not_or] at h
    simp [split, Ne.symm h.1, ih h.2]

theorem split_rooted (h : ∀ name ∈ names, slash ∉ name) : split (rooted names) = [] :: names := by
  induction names with
  | nil => rfl
  | cons name names ih =>
    obtain ⟨hname, hnames⟩ := List.forall_mem_cons.mp h
    have hcons : rooted (name :: names) = slash :: (name ++ rooted names) := rfl
    rw [hcons, split, if_pos rfl, split_append hname (ih hnames)]

theorem not_mem_of_mem_split (h : name ∈ split bs) : slash ∉ name := by
  induction bs generalizing name with
  | nil => simp_all [split]
  | cons b bs ih =>
    unfold split at h
    split at h
    · obtain rfl | h := List.mem_cons.mp h
      · exact List.not_mem_nil
      · exact ih h
    · next hb =>
      split at h
      · simp [List.mem_singleton.mp h, Ne.symm hb]
      · next first others hsplit =>
        obtain rfl | h := List.mem_cons.mp h
        · have hfirst := ih (hsplit ▸ List.mem_cons_self)
          simp [hfirst, Ne.symm hb]
        · exact ih (hsplit ▸ List.mem_cons_of_mem _ h)

/-- The names of a path that say where it leads. -/
def leading (p : Path) : List Name := p.names.filter fun n => n ≠ [] && n ≠ here

theorem of_mem_leading {n : Name} (h : n ∈ p.leading) :
    n ∈ p.names ∧ slash ∉ n ∧ n ≠ [] ∧ n ≠ here := by
  obtain ⟨hmem, hleads⟩ := List.mem_filter.mp h
  simp only [Bool.and_eq_true, decide_eq_true_eq] at hleads
  exact ⟨hmem, not_mem_of_mem_split hmem, hleads.1, hleads.2⟩

/-- Empty names lead nowhere, wherever they are put in. -/
theorem leading_rooted (hnames : ∀ n ∈ names, slash ∉ n) :
    leading ⟨rooted names⟩ = names.filter fun n => n ≠ [] && n ≠ here := by
  rw [leading, show (⟨rooted names⟩ : Path).names = _ from split_rooted hnames]
  rfl

end Path

namespace Text
variable {t u : Text} {ts : List Text} {sep : Char}

theorem splitAt_append (h : sep ∉ t) (hu : splitAt sep u = [] :: ts) :
    splitAt sep (t ++ u) = t :: ts := by
  induction t with
  | nil => exact hu
  | cons c t ih =>
    rw [List.mem_cons, not_or] at h
    simp [splitAt, Ne.symm h.1, ih h.2]

theorem splitAt_flatMap (h : ∀ t ∈ ts, sep ∉ t) :
    splitAt sep (ts.flatMap (sep :: ·)) = [] :: ts := by
  induction ts with
  | nil => rfl
  | cons t ts ih =>
    obtain ⟨ht, hts⟩ := List.forall_mem_cons.mp h
    have hcons : (t :: ts).flatMap (sep :: ·) = sep :: (t ++ ts.flatMap (sep :: ·)) := rfl
    rw [hcons, splitAt, if_pos rfl, splitAt_append ht (ih hts)]

theorem trim_eq_self {p : Char → Bool} (h : ∀ c ∈ t, ¬p c) : trim p t = t := by
  have hdrop : ∀ u : Text, (∀ c ∈ u, ¬p c) → u.dropWhile p = u :=
    fun u hu => List.dropWhile_eq_self_iff.mpr fun hl => hu _ (List.getElem_mem hl)
  rw [trim, hdrop t h, hdrop t.reverse fun c hc => h c (List.mem_reverse.mp hc),
    List.reverse_reverse]

end Text

namespace Uri
variable {c : Char} {b : UInt8} {p : Path} {name : Path.Name} {t : Text} {ts : List Text}

/-- A character that means nothing in a uri but itself. -/
def isPlain (c : Char) : Bool :=
  0x20 < c.toNat && !isPassedOver c && !isSlash c && !endsPath c

theorem isPlain_iff : isPlain c = true ↔
    0x20 < c.toNat ∧ isPassedOver c = false ∧ isSlash c = false ∧ endsPath c = false := by
  simp only [isPlain, Bool.and_eq_true, decide_eq_true_eq, Bool.not_eq_true', and_assoc]

theorem encode_cons : Percent.encode isEncoded (b :: name) =
    (if isEncoded b then Percent.encodeByte b else [Char.ofNat b.toNat]) ++
      Percent.encode isEncoded name := rfl

/-- A byte that is not written as itself is written with a percent sign, but not with that of a
dot. -/
theorem encodeByte_of_isEncoded (h : isEncoded b = true) :
    ∃ x y, Percent.encodeByte b = ['%', x, y] ∧ isPlain x = true ∧ isPlain y = true ∧
      x ≠ '%' ∧ y ≠ '%' ∧ ¬(x = '2' ∧ (y = 'e' ∨ y = 'E')) := by
  have hall : ∀ b : UInt8, isEncoded b = true →
      let x := Percent.hexDigit (b.toNat / 16)
      let y := Percent.hexDigit (b.toNat % 16)
      isPlain x = true ∧ isPlain y = true ∧ x ≠ '%' ∧ y ≠ '%' ∧
        ¬(x = '2' ∧ (y = 'e' ∨ y = 'E')) :=
    of_forall_lt_256 (by decide +kernel)
  exact ⟨_, _, rfl, hall b h⟩

theorem plain_of_not_isEncoded (h : isEncoded b = false) :
    isPlain (Char.ofNat b.toNat) = true ∧ Char.ofNat b.toNat ≠ '%' ∧ b < 0x80 := by
  have hall : ∀ b : UInt8, isEncoded b = false →
      isPlain (Char.ofNat b.toNat) = true ∧ Char.ofNat b.toNat ≠ '%' ∧ b < 0x80 :=
    of_forall_lt_256 (by decide +kernel)
  exact hall b h

theorem isPlain_of_mem_encode (h : c ∈ Percent.encode isEncoded name) : isPlain c = true := by
  obtain ⟨b, -, hc⟩ := List.mem_flatMap.mp h
  cases hb : isEncoded b with
  | true =>
    obtain ⟨x, y, hbyte, hx, hy, -⟩ := encodeByte_of_isEncoded hb
    rw [if_pos hb, hbyte] at hc
    simp only [List.mem_cons, List.not_mem_nil, or_false] at hc
    obtain rfl | rfl | rfl := hc
    · decide
    · exact hx
    · exact hy
  | false =>
    rw [if_neg (by simp [hb]), List.mem_singleton] at hc
    exact hc ▸ (plain_of_not_isEncoded hb).1

theorem decode_encode (name : Path.Name) :
    Percent.decode (Text.toBytes (Percent.encode isEncoded name)) = name :=
  Percent.decode_encode (by decide) (fun _ hb => (plain_of_not_isEncoded hb).2.2) name

theorem eq_of_encode_eq (h : Percent.encode isEncoded name = t) :
    name = Percent.decode (Text.toBytes t) :=
  h ▸ (decode_encode name).symm

theorem undotted_cons_of_ne (h : c ≠ '%') : undotted (c :: t) = c :: undotted t := by
  rw [undotted] <;> rintro _ rfl <;> exact absurd rfl h

theorem undotted_sign {x y : Char} (h : ¬(x = '2' ∧ (y = 'e' ∨ y = 'E'))) :
    undotted ('%' :: x :: y :: t) = '%' :: undotted (x :: y :: t) := by
  rw [undotted] <;> rintro _ - heq <;> simp only [List.cons.injEq] at heq
  · exact h ⟨heq.1, .inl heq.2.1⟩
  · exact h ⟨heq.1, .inr heq.2.1⟩

/-- No dots come about when a name is written. -/
theorem undotted_encode (name : Path.Name) :
    undotted (Percent.encode isEncoded name) = Percent.encode isEncoded name := by
  induction name with
  | nil => rfl
  | cons b name ih =>
    rw [encode_cons]
    cases hb : isEncoded b with
    | true =>
      obtain ⟨x, y, hbyte, -, -, hx, hy, hdot⟩ := encodeByte_of_isEncoded hb
      rw [if_pos rfl, hbyte]
      simp only [List.cons_append, List.nil_append]
      rw [undotted_sign hdot, undotted_cons_of_ne hx, undotted_cons_of_ne hy, ih]
    | false =>
      rw [if_neg (by simp), List.singleton_append,
        undotted_cons_of_ne (plain_of_not_isEncoded hb).2.1, ih]

/-- A segment that is taken as it is. -/
structure IsName (t : Text) : Prop where
  plain : ∀ c ∈ t, isPlain c = true
  notHere : undotted t ≠ ['.']
  notAbove : undotted t ≠ ['.', '.']

theorem isName_encode (hhere : name ≠ Path.here) (habove : name ≠ Path.above) :
    IsName (Percent.encode isEncoded name) := by
  refine ⟨fun c => isPlain_of_mem_encode, ?_, ?_⟩
  · rw [undotted_encode]
    exact fun heq => hhere (eq_of_encode_eq heq)
  · rw [undotted_encode]
    exact fun heq => habove (eq_of_encode_eq heq)

theorem isName_nil : IsName [] := ⟨fun _ hc => (nomatch hc), by decide, by decide⟩

theorem clean_of_plain (h : ∀ c ∈ t, isPlain c = true ∨ c = '/') : clean t = t := by
  refine List.filter_eq_self.mpr fun c hc => ?_
  obtain hplain | rfl := h c hc
  · simp [(isPlain_iff.mp hplain).2.1]
  · decide

theorem mem_flatMap_slash (hts : ∀ t ∈ ts, IsName t) (hc : c ∈ ts.flatMap ('/' :: ·)) :
    isPlain c = true ∨ c = '/' := by
  obtain ⟨t, ht, hc⟩ := List.mem_flatMap.mp hc
  obtain rfl | hc := List.mem_cons.mp hc
  · exact .inr rfl
  · exact .inl ((hts t ht).plain c hc)

theorem segments_flatMap (hts : ∀ t ∈ ts, IsName t) :
    segments (ts.flatMap ('/' :: ·)) = [] :: ts := by
  have hsame : (ts.flatMap ('/' :: ·)).map (fun c => if isSlash c then '/' else c) =
      ts.flatMap ('/' :: ·) := by
    refine (List.map_congr_left fun c hc => ?_).trans (List.map_id _)
    obtain hplain | rfl := mem_flatMap_slash hts hc
    · simp [(isPlain_iff.mp hplain).2.2.1]
    · rfl
  rw [segments, hsame]
  refine Text.splitAt_flatMap fun t ht hslash => ?_
  exact absurd ((hts t ht).plain _ hslash) (by decide)

/-- Segments that are names are put behind those done. -/
theorem resolve_names {done : Resolved} (hdone : done.names ≠ []) (hts : ∀ t ∈ ts, IsName t) :
    resolve done ts = { done with names := done.names ++ ts } := by
  induction ts generalizing done with
  | nil => simp [resolve]
  | cons t ts ih =>
    obtain ⟨ht, hts⟩ := List.forall_mem_cons.mp hts
    have hadd : done.add t = { done with names := done.names ++ [t] } := by
      unfold Resolved.add
      split
      · next heq => exact absurd heq hdone
      · rfl
    have hempty : done.names.isEmpty = false := by simpa using hdone
    rw [resolve, hempty, clean_of_plain fun c hc => .inl (ht.plain c hc)]
    simp only [Bool.false_eq_true, if_false, ht.notHere, ht.notAbove]
    rw [hadd, ih (by simp) hts]
    simp

theorem ofText_flatMap (hts : ∀ t ∈ ts, IsName t) :
    (Resolved.ofText (ts.flatMap ('/' :: ·))).names = [] :: ts := by
  have hwhole : (ts.flatMap ('/' :: ·)).takeWhile (fun c => !endsPath c) =
      ts.flatMap ('/' :: ·) := by
    refine List.takeWhile_eq_self_iff.mpr fun c hc => ?_
    obtain hplain | rfl := mem_flatMap_slash hts hc
    · simp [(isPlain_iff.mp hplain).2.2.2]
    · decide
  have hfirst : resolve ⟨[], false⟩ ([] :: ts) = resolve ⟨[[]], false⟩ ts := rfl
  rw [Resolved.ofText, hwhole, segments_flatMap hts, hfirst, resolve_names (by simp) hts]
  rfl

/-- A file uri without a host, as paths are written. -/
theorem read_flatMap (hne : ts ≠ []) (hts : ∀ t ∈ ts, IsName t) :
    read ("file://".toList ++ ts.flatMap ('/' :: ·)) = .file (pathOfSegments ([] :: ts)) := by
  have hclean : clean ("file://".toList ++ ts.flatMap ('/' :: ·)) =
      "file://".toList ++ ts.flatMap ('/' :: ·) := by
    rw [clean, List.filter_append]
    exact congrArg ("file://".toList ++ ·) (clean_of_plain fun c => mem_flatMap_slash hts)
  have htrim : Text.trim (·.toNat ≤ 0x20) ("file://".toList ++ ts.flatMap ('/' :: ·)) =
      "file://".toList ++ ts.flatMap ('/' :: ·) := by
    refine Text.trim_eq_self fun c hc => ?_
    obtain hc | hc := List.mem_append.mp hc
    · have hscheme : ("file://".toList.all fun c => decide (0x20 < c.toNat)) = true := by decide
      simpa using List.all_eq_true.mp hscheme c hc
    · obtain hplain | rfl := mem_flatMap_slash hts hc
      · simpa using (isPlain_iff.mp hplain).1
      · decide
  have hscheme : ∀ t, scheme? ("file://".toList ++ t) = some ("file".toList, "//".toList ++ t) :=
    fun t => rfl
  have hrest : ∀ t, ((("file://".toList ++ t).dropWhile (· ≠ ':')).drop 1) = "//".toList ++ t :=
    fun t => rfl
  have hfile : readFile ("//".toList ++ ts.flatMap ('/' :: ·)) =
      .file (localPath (ts.flatMap ('/' :: ·))) := by
    obtain ⟨t, ts', rfl⟩ := List.exists_cons_of_ne_nil hne
    rfl
  rw [read, htrim, hclean, hscheme]
  dsimp only
  rw [if_pos rfl, hrest, hfile, localPath, ofText_flatMap hts]

theorem closeDrive_cases (bytes : Bytes) :
    closeDrive bytes = bytes ∨ closeDrive bytes = bytes ++ [Path.slash] := by
  unfold closeDrive
  split
  · split
    · exact .inr rfl
    · exact .inl rfl
  · exact .inl rfl

/-- The segments that a path is written in. -/
def segmentsOf (p : Path) : List Text :=
  if p.leading = [] then [[]] else p.leading.map (Percent.encode isEncoded)

theorem ofPath_of_isAbsolute (h : p.isAbsolute = true) :
    ofPath p = "file://".toList ++ (segmentsOf p).flatMap ('/' :: ·) := by
  rw [ofPath, if_pos h, segmentsOf]
  change "file://".toList ++ (if p.leading.isEmpty then ['/'] else
    p.leading.flatMap fun n => '/' :: Percent.encode isEncoded n) = _
  cases p.leading with
  | nil => rfl
  | cons n names => simp [List.flatMap_map]

theorem ofPath_congr {q : Path} (hp : p.isAbsolute = true) (hq : q.isAbsolute = true)
    (h : q.leading = p.leading) : ofPath q = ofPath p := by
  rw [ofPath_of_isAbsolute hp, ofPath_of_isAbsolute hq, segmentsOf, segmentsOf, h]

theorem pathOfSegments_of_leading (hne : p.leading ≠ []) :
    pathOfSegments ([] :: p.leading.map (Percent.encode isEncoded)) =
      ⟨closeDrive (Path.rooted p.leading)⟩ := by
  have hfirst : ∀ n ∈ p.leading, (Percent.encode isEncoded n).isEmpty = false := by
    intro n hn
    rw [List.isEmpty_eq_false_iff]
    exact fun hempty => (Path.of_mem_leading hn).2.2.1 (eq_of_encode_eq hempty)
  have hdrop : ([] :: p.leading.map (Percent.encode isEncoded)).dropWhile List.isEmpty =
      p.leading.map (Percent.encode isEncoded) := by
    obtain ⟨first, rest, hcons⟩ := List.exists_cons_of_ne_nil hne
    rw [hcons, List.map_cons, List.dropWhile_cons_of_pos rfl,
      List.dropWhile_cons_of_neg (by simp [hfirst first (hcons ▸ List.mem_cons_self)])]
  unfold pathOfSegments
  simp only [hdrop]
  rw [if_neg (by simpa using hne), List.flatMap_map]
  simp only [decode_encode]
  rfl

/-- The names that lead somewhere are read back. -/
theorem leading_pathOfSegments (p : Path) :
    (pathOfSegments ([] :: segmentsOf p)).isAbsolute = true ∧
      (pathOfSegments ([] :: segmentsOf p)).leading = p.leading := by
  unfold segmentsOf
  split
  · next hempty =>
    rw [hempty]
    exact ⟨rfl, rfl⟩
  · next hne =>
    have hfilter : p.leading.filter (fun n => n ≠ [] && n ≠ Path.here) = p.leading := by
      rw [Path.leading, List.filter_filter]
      simp
    have hslash : ∀ n ∈ p.leading, Path.slash ∉ n := fun n hn => (Path.of_mem_leading hn).2.1
    rw [pathOfSegments_of_leading hne]
    obtain ⟨first, rest, hcons⟩ := List.exists_cons_of_ne_nil hne
    obtain hclose | hclose := closeDrive_cases (Path.rooted p.leading)
    · rw [hclose]
      refine ⟨?_, (Path.leading_rooted hslash).trans hfilter⟩
      rw [hcons]
      rfl
    · have hrooted : Path.rooted p.leading ++ [Path.slash] = Path.rooted (p.leading ++ [[]]) := by
        simp [Path.rooted]
      rw [hclose, hrooted]
      refine ⟨?_, (Path.leading_rooted fun n hn => ?_).trans ?_⟩
      · rw [hcons]
        rfl
      · obtain hn | hn := List.mem_append.mp hn
        · exact hslash n hn
        · simp [List.mem_singleton.mp hn]
      · rw [List.filter_append, hfilter]
        simp

/-- The uri of a path is read as a path with the same uri, if no name of it leads back up. -/
theorem documentPath_ofPath (habsolute : p.isAbsolute = true) (habove : Path.above ∉ p.names) :
    ∃ q, documentPath (String.ofList (ofPath p)) = .ok q ∧ ofPath q = ofPath p := by
  have hnames : ∀ t ∈ segmentsOf p, IsName t := by
    unfold segmentsOf
    split
    · rintro t ht
      exact List.mem_singleton.mp ht ▸ isName_nil
    · rintro t ht
      obtain ⟨n, hn, rfl⟩ := List.mem_map.mp ht
      obtain ⟨hmem, -, -, hhere⟩ := Path.of_mem_leading hn
      exact isName_encode hhere fun heq => habove (heq ▸ hmem)
  have hne : segmentsOf p ≠ [] := by
    unfold segmentsOf
    split <;> simp_all
  obtain ⟨habsolute', hleading⟩ := leading_pathOfSegments p
  refine ⟨pathOfSegments ([] :: segmentsOf p), ?_, ofPath_congr habsolute habsolute' hleading⟩
  rw [documentPath, String.toList_ofList, ofPath_of_isAbsolute habsolute, read_flatMap hne hnames]

end Uri

end Waymark
