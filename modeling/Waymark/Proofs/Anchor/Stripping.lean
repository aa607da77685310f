import Waymark.CommandLine
import Waymark.Proofs.Anchor.Removal
import Waymark.Proofs.Files.Separation
import Waymark.Proofs.Text.Utf8

/-! Taking the anchors out of many files. Each file is rewritten for itself, whatever comes of the
others, and one that has been rewritten has no anchors any more. -/

namespace Waymark

/-- A node without its anchors. Only a text has any. -/
def Node.stripped : Node → Node
  | .file bytes executable =>
    match Utf8.decode bytes with
    | .ok t => .file (Text.toBytes (Anchor.strip t)) executable
    | .error _ => .file bytes executable
  | .directory => .directory

namespace Node
variable {n : Node} {bytes : Bytes} {executable : Bool} {t : Text}

theorem stripped_of_text (h : Utf8.decode bytes = .ok t) :
    (file bytes executable).stripped = file (Text.toBytes (Anchor.strip t)) executable := by
  simp [stripped, h]

@[simp] theorem isDirectory_stripped : n.stripped.isDirectory = n.isDirectory := by
  cases n with
  | file bytes executable => cases h : Utf8.decode bytes <;> simp [stripped, h, isDirectory]
  | directory => rfl

/-- What is a text without anchors was a text with them. -/
theorem text_of_stripped (h : n.stripped = file bytes executable) (ht : Utf8.decode bytes = .ok t) :
    ∃ bytes' t', n = file bytes' executable ∧ Utf8.decode bytes' = .ok t' := by
  cases n with
  | file bytes' executable' =>
    cases hdecode : Utf8.decode bytes' with
    | error fault =>
      obtain ⟨rfl, rfl⟩ : bytes' = bytes ∧ executable' = executable := by
        simpa [stripped, hdecode] using h
      rw [ht] at hdecode
      cases hdecode
    | ok t' =>
      obtain ⟨-, rfl⟩ := file.inj ((stripped_of_text hdecode).symm.trans h)
      exact ⟨bytes', t', rfl, hdecode⟩
  | directory => cases h

@[simp] theorem stripped_stripped : n.stripped.stripped = n.stripped := by
  cases n with
  | file bytes executable =>
    cases h : Utf8.decode bytes with
    | error fault => simp [stripped, h]
    | ok t =>
      rw [stripped_of_text h, stripped_of_text (Utf8.decode_toBytes _), Anchor.strip_strip]
  | directory => rfl

end Node

namespace Anchor
variable {t : Text}

theorem length_sub_length_strip : t.length - (strip t).length = count t := by
  have hlength : t.length = t.countP isGlyph + (strip t).length := by
    rw [strip, ← List.countP_eq_length_filter]
    simpa using List.length_eq_countP_add_countP (l := t) isGlyph
  rw [count]
  omega

theorem count_eq_zero_iff : count t = 0 ↔ ∀ c ∈ t, ¬ isGlyph c := List.countP_eq_zero

theorem count_strip : count (strip t) = 0 := count_eq_zero_iff.mpr fun _ => not_isGlyph_of_mem_strip

theorem strip?_of_count_ne_zero (h : count t ≠ 0) : strip? t = some (strip t) := by
  cases hs : strip? t with
  | none => exact absurd (count_eq_zero_iff.mpr (strip?_eq_none_iff.mp hs)) h
  | some u =>
    unfold strip? at hs
    split at hs
    · exact hs.symm
    · cases hs

/-- How taking `n` anchors out ends. -/
def removal (n : Nat) : Outcome := if n = 0 then .unchanged else .applied n

end Anchor

namespace Disk
variable {d d' d'' : Disk} {p : Path} {t : Text} {places places' : List Place} {fault : FileFault}

/-- The disk `d'` is `d` with the anchors taken out of what stands at some places. -/
structure Stripped (places : List Place) (d d' : Disk) : Prop where
  wd : d'.wd = d.wd
  node : ∀ place, d'.tree.node? place =
    if place ∈ places then (d.tree.node? place).map Node.stripped else d.tree.node? place

theorem Stripped.refl (d : Disk) : Stripped [] d d := ⟨rfl, fun place => by simp⟩

theorem Stripped.trans (h : Stripped places d d') (h' : Stripped places' d' d'') :
    Stripped (places' ++ places) d d'' := by
  refine ⟨h'.wd.trans h.wd, fun place => ?_⟩
  rw [h'.node, h.node]
  by_cases hp : place ∈ places <;> by_cases hp' : place ∈ places' <;>
    simp [hp, hp', Function.comp_def]

theorem Stripped.sameShape (h : Stripped places d d') : FileTree.SameShape d.tree d'.tree := by
  intro place
  rw [h.node]
  split <;> simp [Function.comp_def]

theorem readText_eq_ok : d.readText p = .ok t ↔
    d.tree.locate d.wd p = .ok (p.place d.wd) ∧ ∃ bytes executable,
      d.tree.node? (p.place d.wd) = some (.file bytes executable) ∧ Utf8.decode bytes = .ok t := by
  constructor
  · intro h
    obtain ⟨bytes, hread, hdecode⟩ := Anchor.read_of_readText h
    obtain ⟨hlocate, executable, hn⟩ := FileTree.read_eq_ok.mp hread
    exact ⟨hlocate, bytes, executable, hn, hdecode⟩
  · rintro ⟨hlocate, bytes, executable, hn, hdecode⟩
    exact readText_of_decode (FileTree.read_eq_ok.mpr ⟨hlocate, executable, hn⟩) hdecode

/-- What was a text still is one, without its anchors if they were taken out. -/
theorem Stripped.readText_of_ok (h : Stripped places d d') (ht : d.readText p = .ok t) :
    d'.readText p = .ok (if p.place d.wd ∈ places then Anchor.strip t else t) := by
  obtain ⟨hlocate, bytes, executable, hn, hdecode⟩ := readText_eq_ok.mp ht
  rw [readText_eq_ok, h.wd, FileTree.locate_congr h.sameShape, h.node, hn]
  split
  · exact ⟨hlocate, _, executable, congrArg some (Node.stripped_of_text hdecode),
      Utf8.decode_toBytes _⟩
  · exact ⟨hlocate, bytes, executable, rfl, hdecode⟩

/-- Where anchors were taken out, the file has the bytes of what is left. -/
theorem Stripped.read_of_mem (h : Stripped places d d') (hplace : p.place d.wd ∈ places)
    (ht : d.readText p = .ok t) : d'.read p = .ok (Text.toBytes (Anchor.strip t)) := by
  obtain ⟨hlocate, bytes, executable, hn, hdecode⟩ := readText_eq_ok.mp ht
  refine FileTree.read_eq_ok.mpr ⟨?_, executable, ?_⟩
  · rw [h.wd, FileTree.locate_congr h.sameShape, hlocate]
  · rw [h.wd, h.node, if_pos hplace, hn, Option.map_some, Node.stripped_of_text hdecode]

/-- What was no text still is none. -/
theorem Stripped.readText_of_error (h : Stripped places d d') (ht : d.readText p = .error fault) :
    ∃ fault', d'.readText p = .error fault' := by
  cases ht' : d'.readText p with
  | error fault' => exact ⟨fault', rfl⟩
  | ok u =>
    obtain ⟨hlocate, bytes, executable, hn, hdecode⟩ := readText_eq_ok.mp ht'
    rw [h.wd, FileTree.locate_congr h.sameShape] at hlocate
    have htext : ∃ bytes t, d.tree.node? (p.place d.wd) = some (.file bytes executable) ∧
        Utf8.decode bytes = .ok t := by
      rw [h.wd, h.node] at hn
      split at hn
      · obtain ⟨n, hn, hstripped⟩ := Option.map_eq_some_iff.mp hn
        obtain ⟨bytes, t, rfl, hdecode⟩ := Node.text_of_stripped hstripped hdecode
        exact ⟨bytes, t, hn, hdecode⟩
      · exact ⟨bytes, u, hn, hdecode⟩
    obtain ⟨bytes, t, hn, hdecode⟩ := htext
    rw [readText_eq_ok.mpr ⟨hlocate, bytes, executable, hn, hdecode⟩] at ht
    cases ht

theorem Stripped.isOk_readText (h : Stripped places d d') (p : Path) :
    (d'.readText p).isOk = (d.readText p).isOk := by
  cases ht : d.readText p with
  | error fault =>
    obtain ⟨fault', ht'⟩ := h.readText_of_error ht
    rw [ht']
    rfl
  | ok t =>
    rw [h.readText_of_ok ht]
    rfl

end Disk

namespace Anchor
variable {d d' : Disk} {p : Path} {t : Text} {fault : FileFault}

/-- A text is rewritten if it has anchors. -/
theorem stripFile_of_text (h : d.readText p = .ok t) :
    ∃ d', stripFile d p = (.ok (removal (count t)), d') ∧ d.Stripped [p.place d.wd] d' ∧
      (count t = 0 → d' = d) := by
  obtain ⟨bytes, hread, hdecode⟩ := read_of_readText h
  obtain ⟨executable, hn, hwrite⟩ :=
    FileTree.write_of_read hread (Text.toBytes (strip t))
  by_cases hcount : count t = 0
  · have hnone : strip? t = none := strip?_eq_none_iff.mpr (count_eq_zero_iff.mp hcount)
    have hsame : strip t = t := strip_eq_self (count_eq_zero_iff.mp hcount)
    refine ⟨d, by simp [stripFile, hread, hdecode, hnone, removal, hcount], ⟨rfl, fun place => ?_⟩,
      fun _ => rfl⟩
    split
    · next hplace =>
      obtain rfl := List.mem_singleton.mp hplace
      rw [hn, Option.map_some, Node.stripped_of_text hdecode, hsame, Utf8.toBytes_of_decode hdecode]
    · rfl
  · have hsome := strip?_of_count_ne_zero hcount
    let d' : Disk :=
      { d with tree := d.tree.set (p.place d.wd) (.file (Text.toBytes (strip t)) executable) }
    have hdisk : d.write p (Text.toBytes (strip t)) = .ok d' :=
      Disk.write_eq_ok.mpr ⟨_, hwrite, rfl⟩
    refine ⟨d', ?_, ⟨rfl, fun place => ?_⟩, fun hzero => absurd hzero hcount⟩
    · simp only [stripFile, hread, hdecode, hsome, hdisk, removal, if_neg hcount,
        length_sub_length_strip]
    · rw [FileTree.node?_set (FileTree.place_ne_nil hn)]
      by_cases hplace : place = p.place d.wd
      · simp [hplace, hn, Node.stripped_of_text hdecode]
      · simp [hplace]

theorem stripFile_of_unreadable (h : d.readText p = .error fault) :
    ∃ e, stripFile d p = (.error e, d) := by
  unfold stripFile
  cases hread : d.read p with
  | error fault => exact ⟨_, rfl⟩
  | ok bytes =>
    cases hdecode : Utf8.decode bytes with
    | error fault =>
      simp only [hdecode]
      exact ⟨_, rfl⟩
    | ok t =>
      rw [Disk.readText_of_decode hread hdecode] at h
      cases h

/-- The guard is idle again after each file, and so lets the next one in. -/
theorem attemptClosed_idle (board : Board) (d : Disk) (p : Path) :
    ∃ board', attemptClosed .idle board d p =
      (.idle, ⟨(stripFile d p).1, board', (stripFile d p).2⟩) := by
  have hbegin : Guard.idle.begin? .remove = some ⟨some .remove⟩ := rfl
  have hfinish := Guard.finish_of_begin? hbegin
  simp only [attemptClosed, hbegin, hfinish]
  rcases stripFile d p with ⟨_ | outcome, d'⟩
  · exact ⟨_, rfl⟩
  · exact ⟨_, rfl⟩

end Anchor

namespace CommandLine
variable {d d' : Disk} {p : Path} {ps : List Path} {t : Text} {places : List Place}
  {fault : FileFault}

/-- What is said about a file that so many anchors were taken out of. -/
def removalLine (p : Path) (n : Nat) : Text :=
  if n = 0 then p.text ++ ": no anchors\n".toList
  else p.text ++ ": removed ".toList ++ Nat.toDigits 10 n ++ " anchors\n".toList

/-- What is said about files of the disk `d` one after the other, when the anchors have been taken
out of what stands at some places. Files that are no texts are passed over. -/
def report (d : Disk) (places : List Place) : List Path → Text
  | [] => []
  | p :: ps =>
    match d.readText p with
    | .error _ => report d places ps
    | .ok t =>
      removalLine p (if p.place d.wd ∈ places then 0 else Anchor.count t)
        ++ report d (p.place d.wd :: places) ps

/-- Where the texts are that some paths lead to, the last one first. -/
def textPlaces (d : Disk) (ps : List Path) : List Place :=
  (ps.filter fun p => (d.readText p).isOk).reverse.map (·.place d.wd)

theorem stripLine_removal {n : Nat} : stripLine p (Anchor.removal n) = removalLine p n := by
  unfold Anchor.removal removalLine
  split <;> rfl

theorem stripEach_of_text (board : Board) (ps : List Path) (h : d.readText p = .ok t) :
    ∃ board' d', d.Stripped [p.place d.wd] d' ∧ (Anchor.count t = 0 → d' = d) ∧
      stripEach .idle board d (p :: ps) =
        (removalLine p (Anchor.count t) ++ (stripEach .idle board' d' ps).1,
          (stripEach .idle board' d' ps).2) := by
  obtain ⟨d', hstrip, hstripped, hsame⟩ := Anchor.stripFile_of_text h
  obtain ⟨board', hattempt⟩ := Anchor.attemptClosed_idle board d p
  refine ⟨board', d', hstripped, hsame, ?_⟩
  simp only [stripEach, hattempt, hstrip, stripLine_removal]

theorem stripEach_of_unreadable (board : Board) (ps : List Path)
    (h : d.readText p = .error fault) :
    ∃ board', stripEach .idle board d (p :: ps) = stripEach .idle board' d ps := by
  obtain ⟨e, hstrip⟩ := Anchor.stripFile_of_unreadable h
  obtain ⟨board', hattempt⟩ := Anchor.attemptClosed_idle board d p
  refine ⟨board', ?_⟩
  simp only [stripEach, hattempt, hstrip]

/-- Going on where anchors have been taken out of some files already. -/
theorem stripEach_stripped (board : Board) (ps : List Path) (h : d.Stripped places d') :
    ∃ d'', stripEach .idle board d' ps = (report d places ps, d'') ∧
      d.Stripped (textPlaces d ps ++ places) d'' := by
  induction ps generalizing places d' board with
  | nil => exact ⟨d', rfl, h⟩
  | cons p ps ih =>
    cases ht : d.readText p with
    | error fault =>
      obtain ⟨fault', hunreadable⟩ := h.readText_of_error ht
      obtain ⟨board', hstep⟩ := stripEach_of_unreadable board ps hunreadable
      have hreport : report d places (p :: ps) = report d places ps := by simp only [report, ht]
      have hplaces : textPlaces d (p :: ps) = textPlaces d ps := by
        simp [textPlaces, ht, Except.isOk, Except.toBool]
      rw [hstep, hreport, hplaces]
      exact ih board' h
    | ok t =>
      obtain ⟨board', d₁, hstripped, -, hstep⟩ :=
        stripEach_of_text board ps (h.readText_of_ok ht)
      rw [h.wd] at hstripped
      obtain ⟨d'', hrest, hall⟩ := ih board' (h.trans hstripped)
      have hcount : Anchor.count (if p.place d.wd ∈ places then Anchor.strip t else t) =
          if p.place d.wd ∈ places then 0 else Anchor.count t := by
        split
        · exact Anchor.count_strip
        · rfl
      have hreport : report d places (p :: ps) =
          removalLine p (if p.place d.wd ∈ places then 0 else Anchor.count t)
            ++ report d (p.place d.wd :: places) ps := by simp only [report, ht]
      have hplaces : textPlaces d (p :: ps) = textPlaces d ps ++ [p.place d.wd] := by
        simp [textPlaces, ht, Except.isOk, Except.toBool]
      refine ⟨d'', ?_, ?_⟩
      · rw [hstep, hrest, hreport, hcount, List.singleton_append]
      · rwa [hplaces, List.append_assoc]

/-- Where no text has anchors, nothing is rewritten. -/
theorem stripEach_bare (board : Board)
    (h : ∀ p ∈ ps, ∀ t, d.readText p = .ok t → Anchor.count t = 0) :
    stripEach .idle board d ps =
      ((ps.filter fun p => (d.readText p).isOk).flatMap (removalLine · 0), d) := by
  induction ps generalizing board with
  | nil => rfl
  | cons p ps ih =>
    have hrest := fun board' => ih board' fun q hq => h q (List.mem_cons_of_mem p hq)
    cases ht : d.readText p with
    | error fault =>
      obtain ⟨board', hstep⟩ := stripEach_of_unreadable board ps ht
      rw [hstep, hrest]
      simp [ht, Except.isOk, Except.toBool]
    | ok t =>
      obtain ⟨board', d', -, hsame, hstep⟩ := stripEach_of_text board ps ht
      have hcount := h p List.mem_cons_self t ht
      rw [hstep, hsame hcount, hcount, hrest]
      simp [ht, Except.isOk, Except.toBool]

theorem mem_textPlaces {place : Place} : place ∈ textPlaces d ps ↔
    ∃ p ∈ ps, (∃ t, d.readText p = .ok t) ∧ p.place d.wd = place := by
  have hok : ∀ p, (d.readText p).isOk = true ↔ ∃ t, d.readText p = .ok t := by
    intro p
    cases d.readText p <;> simp [Except.isOk, Except.toBool]
  simp only [textPlaces, List.mem_map, List.mem_reverse, List.mem_filter, hok, and_assoc]

/-- Taking the anchors out of files goes on behind those where it fails. Every text is rewritten
without its anchors and nothing else is touched; what is said, in the order of the files, is how
many anchors each text had, or that it has none any more. Doing it again touches nothing and finds
no anchors. -/
theorem files_stripped_one_by_one (d : Disk) (ps : List Path) :
    ∃ d', stripFiles d ps = (report d [] ps, d') ∧ d'.wd = d.wd ∧
      (∀ p ∈ ps, ∀ t, d.readText p = .ok t → d'.read p = .ok (Text.toBytes (Anchor.strip t))) ∧
      (∀ place, (∀ p ∈ ps, ∀ t, d.readText p = .ok t → p.place d.wd ≠ place) →
        d'.tree.node? place = d.tree.node? place) ∧
      stripFiles d' ps =
        ((ps.filter fun p => (d.readText p).isOk).flatMap (removalLine · 0), d') := by
  obtain ⟨d', hstrip, h⟩ := stripEach_stripped .empty ps (.refl d)
  rw [List.append_nil] at h
  refine ⟨d', hstrip, h.wd, fun p hp t ht => ?_, fun place hplace => ?_, ?_⟩
  · exact h.read_of_mem (mem_textPlaces.mpr ⟨p, hp, ⟨t, ht⟩, rfl⟩) ht
  · have hnot : place ∉ textPlaces d ps := by
      rintro hmem
      obtain ⟨p, hp, ⟨t, ht⟩, hplace'⟩ := mem_textPlaces.mp hmem
      exact hplace p hp t ht hplace'
    rw [h.node, if_neg hnot]
  · have hbare : ∀ p ∈ ps, ∀ t, d'.readText p = .ok t → Anchor.count t = 0 := by
      intro p hp u hu
      cases ht : d.readText p with
      | error fault =>
        obtain ⟨fault', ht'⟩ := h.readText_of_error ht
        rw [ht'] at hu
        cases hu
      | ok t =>
        have hmem : p.place d.wd ∈ textPlaces d ps := mem_textPlaces.mpr ⟨p, hp, ⟨t, ht⟩, rfl⟩
        rw [h.readText_of_ok ht, if_pos hmem] at hu
        obtain rfl := Except.ok.inj hu
        exact Anchor.count_strip
    rw [stripFiles, stripEach_bare .empty hbare]
    simp only [h.isOk_readText]

/-- A text with two anchors, bytes that are no text, and a directory. -/
def mixedDisk : Disk :=
  ⟨⟨[([[0x66]], .file (Text.toBytes ['a', Anchor.glyph, Anchor.legacyGlyph]) false),
    ([[0x67]], .file [0xFF] false), ([[0x68]], .directory)]⟩, []⟩

theorem files_stripped_one_by_one_of_mixed :
    let ps := ["/g", "/f", "/h", "/x", "/f"].map Path.ofString
    mixedDisk.readText (.ofString "/f") = .ok ['a', Anchor.glyph, Anchor.legacyGlyph] ∧
      ∃ d', stripFiles mixedDisk ps =
          ("/f: removed 2 anchors\n/f: no anchors\n".toList, d') ∧
        d'.read (.ofString "/f") = .ok [0x61] ∧
        d'.tree.node? [[0x67]] = some (.file [0xFF] false) := by
  intro ps
  have htext : mixedDisk.readText (.ofString "/f") = .ok ['a', Anchor.glyph, Anchor.legacyGlyph] :=
    rfl
  obtain ⟨d', hstrip, -, htexts, hothers, -⟩ := files_stripped_one_by_one mixedDisk ps
  have hreport : report mixedDisk [] ps = "/f: removed 2 anchors\n/f: no anchors\n".toList := rfl
  have hnone : ∀ p ∈ ps, p.place mixedDisk.wd = [[0x67]] → (mixedDisk.readText p).isOk = false := by
    decide
  refine ⟨htext, d', hreport ▸ hstrip, htexts _ (by decide) _ htext, ?_⟩
  refine hothers [[0x67]] fun p hp t ht hplace => ?_
  have hfailed := hnone p hp hplace
  rw [ht] at hfailed
  cases hfailed

end CommandLine

end Waymark
