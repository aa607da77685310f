import Waymark.Proofs.Files.Rewriting

/-! Files apart. A path leads to one place only, whatever the files on the way to it; what is
written to another place leaves the file alone. -/

namespace Waymark

namespace Path

/-- Where names lead from a place, if they lead anywhere. -/
def follow (place : Place) : List Name → Place
  | [] => place
  | name :: names =>
    if name = [] ∨ name = here then follow place names
    else if name = above then follow place.dropLast names
    else follow (place ++ [name]) names

/-- The place of a path, seen from the directory `wd`. -/
def place (wd : Place) (p : Path) : Place := follow (if p.isAbsolute then [] else wd) p.names

/-- Paths to different places. -/
def Apart (wd : Place) (p q : Path) : Prop := q.place wd ≠ p.place wd

instance {wd : Place} {p q : Path} : Decidable (Apart wd p q) := inferInstanceAs (Decidable (_ ≠ _))

end Path

/-- Whether a node is a directory. -/
def Node.isDirectory : Node → Bool
  | .file .. => false
  | .directory => true

namespace FileTree
variable {t t' : FileTree} {wd start place : Place} {n : Node} {p q : Path} {names : List Path.Name}
  {bytes contents : Bytes} {executable : Bool} {ps : List Path}

theorem walk_eq_follow (h : t.walk start names = .ok place) : place = Path.follow start names := by
  induction names generalizing start with
  | nil => exact (Except.ok.inj h).symm
  | cons name names ih =>
    rw [walk] at h
    rw [Path.follow]
    split at h
    · cases h
    · cases h
    · split at h
      · next hc => rw [if_pos hc, ih h]
      · next hc =>
        rw [if_neg hc]
        split at h
        · next hc => rw [if_pos hc, ih h]
        · next hc =>
          rw [if_neg hc]
          split at h
          · cases h
          · exact ih h

theorem locate_eq_place (h : t.locate wd p = .ok place) : place = p.place wd := by
  unfold locate at h
  unfold Path.place
  split at h
  · cases h
  · split at h
    · cases h
    · split at h
      · cases h
      · split at h
        · next habs => rw [if_pos habs, walk_eq_follow h]
        · next habs => rw [if_neg habs, walk_eq_follow h]

theorem read_eq_ok : t.read wd p = .ok bytes ↔
    t.locate wd p = .ok (p.place wd) ∧
      ∃ executable, t.node? (p.place wd) = some (.file bytes executable) := by
  unfold read find
  cases hlocate : t.locate wd p with
  | error fault => simp
  | ok place =>
    obtain rfl := locate_eq_place hlocate
    cases hn : t.node? (p.place wd) with
    | none => simp [hn]
    | some n => cases n <;> simp [hn, eq_comm]

/-- Something stands at the same places of two trees, and directories at the same of these. -/
def SameShape (t t' : FileTree) : Prop :=
  ∀ place, (t'.node? place).map Node.isDirectory = (t.node? place).map Node.isDirectory

theorem walk_congr (h : SameShape t t') : t'.walk start names = t.walk start names := by
  induction names generalizing start with
  | nil => rfl
  | cons name names ih =>
    have hstart := h start
    rw [walk, walk, ih, ih, ih]
    cases hn : t.node? start with
    | none =>
      rw [hn, Option.map_none, Option.map_eq_none_iff] at hstart
      rw [hstart]
    | some n =>
      rw [hn, Option.map_some, Option.map_eq_some_iff] at hstart
      obtain ⟨n', hn', hsame⟩ := hstart
      rw [hn']
      cases n <;> cases n' <;> first | rfl | cases hsame

theorem locate_congr (h : SameShape t t') : t'.locate wd p = t.locate wd p := by
  simp only [locate, walk_congr h]

/-- A file stays as it is when something is put at another place, where there was no directory. -/
theorem read_set (hread : t.read wd p = .ok bytes) (hplace : t.node? place ≠ some .directory)
    (hne : place ≠ p.place wd) : (t.set place n).read wd p = .ok bytes := by
  have hroot : place ≠ [] := by
    rintro rfl
    exact hplace rfl
  obtain ⟨hlocate, executable, hn⟩ := read_eq_ok.mp hread
  exact read_eq_ok.mpr ⟨locate_set hplace hlocate, executable, by
    rw [node?_set hroot, if_neg hne.symm, hn]⟩

theorem place_ne_nil (hn : t.node? place = some (.file bytes executable)) : place ≠ [] := by
  rintro rfl
  cases hn

/-- What can be read can be written, and is executable or not as before. -/
theorem write_of_read (hread : t.read wd p = .ok bytes) (contents : Bytes) :
    ∃ executable, t.node? (p.place wd) = some (.file bytes executable) ∧
      t.write wd p contents = .ok (t.set (p.place wd) (.file contents executable)) := by
  obtain ⟨hlocate, executable, hn⟩ := read_eq_ok.mp hread
  exact ⟨executable, hn, by simp [write, hlocate, hn]⟩

/-- What can be read can be written, and the new contents are read then. -/
theorem read_write_self (hread : t.read wd p = .ok bytes) (contents : Bytes) :
    ∃ t', t.write wd p contents = .ok t' ∧ t'.read wd p = .ok contents := by
  obtain ⟨executable, hn, hwrite⟩ := write_of_read hread contents
  have hplace : t.node? (p.place wd) ≠ some .directory := by simp [hn]
  have hlocate := (read_eq_ok.mp hread).1
  refine ⟨_, hwrite, read_eq_ok.mpr ⟨locate_set hplace hlocate, executable, ?_⟩⟩
  simp [node?_set (place_ne_nil hn)]

theorem read_write_apart (hread : t.read wd p = .ok bytes) (hapart : p.Apart wd q)
    (hwrite : t.write wd q contents = .ok t') : t'.read wd p = .ok bytes := by
  unfold write at hwrite
  split at hwrite
  · cases hwrite
  · next hlocate =>
    obtain rfl := locate_eq_place hlocate
    split at hwrite
    · cases hwrite
    · next hn =>
      obtain rfl := Except.ok.inj hwrite
      exact read_set hread (by simp [hn]) hapart
    · next hn =>
      split at hwrite
      · cases hwrite
      · obtain rfl := Except.ok.inj hwrite
        exact read_set hread (by simp [hn]) hapart

/-- Where a directory is made, there was no file. -/
theorem read_makeDirectory (hread : t.read wd p = .ok bytes)
    (hmake : t.makeDirectory wd q = .ok t') : t'.read wd p = .ok bytes := by
  obtain ⟨-, executable, hn⟩ := read_eq_ok.mp hread
  unfold makeDirectory at hmake
  split at hmake
  · cases hmake
  · split at hmake
    · cases hmake
    · next place _ =>
      split at hmake
      · cases hmake
      · next hnone =>
        obtain rfl := Except.ok.inj hmake
        refine read_set hread (by simp [hnone]) ?_
        rintro rfl
        simp [hnone] at hn

theorem read_ensureDirectory (hread : t.read wd p = .ok bytes)
    (hensure : t.ensureDirectory wd q = .ok t') : t'.read wd p = .ok bytes := by
  unfold ensureDirectory at hensure
  split at hensure
  · split at hensure
    · exact Except.ok.inj hensure ▸ hread
    · cases hensure
  · next hmake => exact Except.ok.inj hensure ▸ read_makeDirectory hread hmake

theorem read_ensureAll (hread : t.read wd p = .ok bytes) :
    (t.ensureAll wd ps).2.read wd p = .ok bytes := by
  induction ps with
  | nil => exact hread
  | cons q ps ih =>
    unfold ensureAll
    split
    · next hensure => exact read_ensureDirectory hread hensure
    · split
      · next heq => rwa [heq] at ih
      · next heq =>
        rw [heq] at ih
        split
        · next hensure => exact read_ensureDirectory ih hensure
        · exact ih
    · exact hread

theorem read_makeDirectories (hread : t.read wd p = .ok bytes) (q : Path) :
    (t.makeDirectories wd q).2.read wd p = .ok bytes := by
  unfold makeDirectories
  split
  · exact hread
  · exact read_ensureAll hread

end FileTree

namespace Disk
variable {d d' d'' : Disk} {p q : Path} {bytes contents : Bytes}

/-- The disk after something that was not done to the file at `p`. -/
structure Spares (p : Path) (d d' : Disk) : Prop where
  wd : d'.wd = d.wd
  file : ∀ bytes, d.read p = .ok bytes → d'.read p = .ok bytes

theorem Spares.refl (p : Path) (d : Disk) : Spares p d d := ⟨rfl, fun _ h => h⟩

theorem Spares.trans (h : Spares p d d') (h' : Spares p d' d'') : Spares p d d'' :=
  ⟨h'.wd.trans h.wd, fun bytes hread => h'.file bytes (h.file bytes hread)⟩

theorem write_eq_ok : d.write p contents = .ok d' ↔
    ∃ tree, d.tree.write d.wd p contents = .ok tree ∧ d' = { d with tree } := by
  unfold write
  cases d.tree.write d.wd p contents <;> simp [Except.map, eq_comm]

theorem spares_write (hapart : p.Apart d.wd q) (h : d.write q contents = .ok d') :
    Spares p d d' := by
  obtain ⟨tree, hwrite, rfl⟩ := write_eq_ok.mp h
  exact ⟨rfl, fun bytes hread => FileTree.read_write_apart hread hapart hwrite⟩

theorem spares_makeDirectories (p : Path) (d : Disk) (q : Path) :
    Spares p d (d.makeDirectories q).2 :=
  ⟨rfl, fun _ hread => FileTree.read_makeDirectories hread q⟩

theorem read_write_self (h : d.read p = .ok bytes) (contents : Bytes) :
    ∃ d', d.write p contents = .ok d' ∧ d'.wd = d.wd ∧ d'.read p = .ok contents := by
  obtain ⟨tree, hwrite, hread⟩ := FileTree.read_write_self h contents
  exact ⟨{ d with tree }, write_eq_ok.mpr ⟨tree, hwrite, rfl⟩, rfl, hread⟩

theorem readText_of_decode {t : Text} (h : d.read p = .ok bytes)
    (hdecode : Utf8.decode bytes = .ok t) : d.readText p = .ok t := by
  rw [readText, h]
  dsimp only
  rw [hdecode]
  rfl

end Disk

end Waymark
