import Waymark.Files.Host

/-! Writing to a path again. Once a file has been written, its path still leads to it, and it can be
written as often as one likes. -/

namespace Waymark

namespace FileTree
variable {t t' : FileTree} {wd start place place' : Place} {entries : List (Place × Node)}
  {n : Node} {p : Path} {names : List Path.Name} {contents : Bytes}

theorem lookup_cons_ite : ((place, n) :: entries).lookup place' =
    if place' = place then some n else entries.lookup place' := by
  by_cases h : place' = place
  · simp [h]
  · simp [List.lookup_cons, beq_false_of_ne h, h]

theorem lookup_setEntry : (setEntry place n entries).lookup place' =
    if place' = place then some n else entries.lookup place' := by
  induction entries with
  | nil => exact lookup_cons_ite
  | cons e entries ih =>
    obtain ⟨q, m⟩ := e
    rw [setEntry]
    split
    · next hq =>
      subst hq
      rw [lookup_cons_ite, lookup_cons_ite]
      split <;> rfl
    · next hq =>
      rw [lookup_cons_ite, lookup_cons_ite, ih]
      by_cases h : place' = q
      · have hne : place' ≠ place := h ▸ hq
        simp [h, hq]
      · simp [h]

theorem node?_set (h : place ≠ []) : (t.set place n).node? place' =
    if place' = place then some n else t.node? place' := by
  by_cases hroot : place' = []
  · have hne : place' ≠ place := fun heq => h (heq ▸ hroot)
    rw [if_neg hne, node?, node?, if_pos hroot, if_pos hroot]
  · rw [node?, node?, if_neg hroot, if_neg hroot]
    exact lookup_setEntry

/-- A walk passes directories only. If it gets to its end, it still does when something has been put
where there was no directory. -/
theorem walk_set (hplace : t.node? place ≠ some .directory)
    (h : t.walk start names = .ok place') : (t.set place n).walk start names = .ok place' := by
  have hroot : place ≠ [] := by
    rintro rfl
    exact hplace rfl
  induction names generalizing start with
  | nil => simpa [walk] using h
  | cons name names ih =>
    rw [walk] at h ⊢
    cases hn : t.node? start with
    | none => simp [hn] at h
    | some node =>
      cases node with
      | file => simp [hn] at h
      | directory =>
        have hne : start ≠ place := by
          rintro rfl
          exact hplace hn
        simp only [hn] at h
        simp only [node?_set hroot, if_neg hne, hn]
        split at h
        · next hc => rw [if_pos hc, ih h]
        · next hc =>
          rw [if_neg hc]
          split at h
          · next hc => rw [if_pos hc, ih h]
          · next hc =>
            rw [if_neg hc]
            split at h
            · cases h
            · next hc => rw [if_neg hc, ih h]

theorem locate_set (hplace : t.node? place ≠ some .directory)
    (h : t.locate wd p = .ok place') : (t.set place n).locate wd p = .ok place' := by
  unfold locate at h ⊢
  split at h
  · cases h
  · split at h
    · cases h
    · split at h
      · cases h
      · split at h <;> simp_all [walk_set hplace]

theorem write_set {executable : Bool} (hplace : t.node? place ≠ some .directory)
    (h : t.locate wd p = .ok place) (contents' : Bytes) :
    ∃ t', (t.set place (.file contents executable)).write wd p contents' = .ok t' := by
  have hroot : place ≠ [] := by
    rintro rfl
    exact hplace rfl
  simp [write, locate_set hplace h, node?_set hroot]

/-- Where a path could be written, it can be written again. -/
theorem write_again (h : t.write wd p contents = .ok t') (contents' : Bytes) :
    ∃ t'', t'.write wd p contents' = .ok t'' := by
  unfold write at h
  cases hlocate : t.locate wd p with
  | error fault => simp [hlocate] at h
  | ok place =>
    simp only [hlocate] at h
    have hset : t.node? place ≠ some .directory ∧
        ∃ executable, t' = t.set place (.file contents executable) := by
      split at h
      · cases h
      · next hn => exact ⟨by simp [hn], _, (Except.ok.inj h).symm⟩
      · next hn =>
        split at h
        · cases h
        · exact ⟨by simp [hn], _, (Except.ok.inj h).symm⟩
    obtain ⟨hplace, executable, rfl⟩ := hset
    exact write_set hplace hlocate contents'

end FileTree

namespace Disk
variable {d d' : Disk} {p : Path} {contents : Bytes}

theorem write_again (h : d.write p contents = .ok d') (contents' : Bytes) :
    ∃ d'', d'.write p contents' = .ok d'' := by
  unfold write at h
  cases hwrite : d.tree.write d.wd p contents with
  | error fault => simp [hwrite, Except.map] at h
  | ok tree =>
    simp only [hwrite, Except.map, Except.ok.injEq] at h
    subst h
    obtain ⟨tree', htree⟩ := FileTree.write_again hwrite contents'
    exact ⟨{ d with tree := tree' }, by simp [write, htree, Except.map]⟩

end Disk

end Waymark
