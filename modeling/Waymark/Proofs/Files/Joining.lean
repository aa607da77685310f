import Waymark.Heap.Renderer
import Waymark.Proofs.Files.Separation
import Waymark.Proofs.Uri.File

/-! Files in a directory. Whatever the directory is, different names in it are different places. So
the files of the heap slots do not get in each other's way, and what is written to one is there
until it is written again. -/

namespace Waymark

namespace Path
variable {p : Path} {bs bs' : Bytes} {name : Name} {names : List Name} {wd start : Place}

theorem split_ne_nil : split bs ≠ [] := by
  cases bs with
  | nil => simp [split]
  | cons b bs =>
    unfold split
    split
    · simp
    · split <;> simp

theorem split_slash : split (bs ++ slash :: bs') = split bs ++ split bs' := by
  induction bs with
  | nil => simp [split]
  | cons b bs ih =>
    rw [List.cons_append, split, split, ih]
    split
    · rfl
    · cases hsplit : split bs with
      | nil => exact absurd hsplit split_ne_nil
      | cons => rfl

/-- A name of its own, which leads to a place right below. -/
structure Proper (name : Name) : Prop where
  plain : slash ∉ name
  nonempty : name ≠ []
  notHere : name ≠ here
  notAbove : name ≠ above

instance {name : Name} : Decidable (Proper name) :=
  decidable_of_iff (slash ∉ name ∧ name ≠ [] ∧ name ≠ here ∧ name ≠ above)
    ⟨fun ⟨hplain, hnonempty, hhere, habove⟩ => ⟨hplain, hnonempty, hhere, habove⟩,
      fun h => ⟨h.plain, h.nonempty, h.notHere, h.notAbove⟩⟩

theorem Proper.split (h : Proper name) : split name = [name] := by
  simpa using split_append h.plain (rfl : Path.split [] = [[]])

theorem follow_concat (names : List Name) (h : Proper name) : follow start (names ++ [name]) =
    follow start names ++ [name] := by
  induction names generalizing start with
  | nil => simp [follow, h.nonempty, h.notHere, h.notAbove]
  | cons first names ih =>
    rw [List.cons_append, follow, follow]
    split
    · exact ih
    · split <;> exact ih

theorem exists_place_slash (wd : Place) (bytes : Bytes) : ∃ base : Place, ∀ name : Name,
    Proper name → (⟨bytes ++ slash :: name⟩ : Path).place wd = base ++ [name] := by
  refine ⟨follow (if (⟨bytes ++ [slash]⟩ : Path).isAbsolute then [] else wd) (split bytes),
    fun name h => ?_⟩
  have habsolute : (⟨bytes ++ slash :: name⟩ : Path).isAbsolute =
      (⟨bytes ++ [slash]⟩ : Path).isAbsolute := by
    cases bytes <;> rfl
  rw [place, habsolute, names, split_slash, h.split, follow_concat _ h]

/-- All that is in a directory is right below one place. -/
theorem exists_place_join (wd : Place) (p : Path) : ∃ base : Place, ∀ name : String,
    Proper (ofString name).bytes → (p.join name).place wd = base ++ [(ofString name).bytes] := by
  by_cases hempty : p.bytes = []
  · refine ⟨wd, fun name h => ?_⟩
    have hrelative : (ofString name).isAbsolute = false := by
      rw [isAbsolute, beq_eq_false_iff_ne]
      exact fun hhead => h.plain (List.mem_of_head? hhead)
    have hjoin : p.join name = ofString name := by simp [join, hempty]
    rw [hjoin, place, hrelative, names, h.split]
    exact follow_concat [] h
  · by_cases hend : p.bytes.getLast? = some slash
    · obtain ⟨bytes, hbytes⟩ := List.getLast?_eq_some_iff.mp hend
      obtain ⟨base, hbase⟩ := exists_place_slash wd bytes
      refine ⟨base, fun name h => ?_⟩
      rw [← hbase _ h]
      simp [join, hbytes]
    · obtain ⟨base, hbase⟩ := exists_place_slash wd p.bytes
      refine ⟨base, fun name h => ?_⟩
      rw [← hbase _ h]
      simp [join, hempty, hend]

theorem apart_join {name name' : String} (h : Proper (ofString name).bytes)
    (h' : Proper (ofString name').bytes) (hne : (ofString name).bytes ≠ (ofString name').bytes) :
    (p.join name).Apart wd (p.join name') := by
  obtain ⟨base, hbase⟩ := exists_place_join wd p
  rw [Apart, hbase name h, hbase name' h']
  exact fun heq => hne (List.append_cancel_left heq |> List.singleton_inj.mp).symm

end Path

namespace HeapSlots
variable {wd : Place} {dir : Path} {slot slot' : Slot}

theorem apart_dotPath (h : slot ≠ slot') :
    (dotPath dir slot.index).Apart wd (dotPath dir slot'.index) := by
  cases slot <;> cases slot' <;> first
    | exact absurd rfl h
    | exact Path.apart_join (by decide +kernel) (by decide +kernel) (by decide +kernel)

theorem apart_svgPath : (dotPath dir slot.index).Apart wd (svgPath dir slot'.index) := by
  cases slot <;> cases slot' <;>
    exact Path.apart_join (by decide +kernel) (by decide +kernel) (by decide +kernel)

theorem apart_svgPaths (h : slot ≠ slot') :
    (svgPath dir slot.index).Apart wd (svgPath dir slot'.index) := by
  cases slot <;> cases slot' <;> first
    | exact absurd rfl h
    | exact Path.apart_join (by decide +kernel) (by decide +kernel) (by decide +kernel)

end HeapSlots

/-- What has been written is read. -/
theorem FileTree.read_of_write {t t' : FileTree} {wd : Place} {p : Path} {contents : Bytes}
    (h : t.write wd p contents = .ok t') : t'.read wd p = .ok contents := by
  have hset : ∀ place executable, t.locate wd p = .ok place → t.node? place ≠ some .directory →
      (t.set place (.file contents executable)).read wd p = .ok contents := by
    intro place executable hlocate hplace
    have hroot : place ≠ [] := by
      rintro rfl
      exact hplace rfl
    obtain rfl := locate_eq_place hlocate
    exact read_eq_ok.mpr ⟨locate_set hplace hlocate, executable, by simp [node?_set hroot]⟩
  unfold write at h
  split at h
  · cases h
  · next place hlocate =>
    split at h
    · cases h
    · next hn => exact Except.ok.inj h ▸ hset place _ hlocate (by simp [hn])
    · next hn =>
      split at h
      · cases h
      · exact Except.ok.inj h ▸ hset place _ hlocate (by simp [hn])

theorem Disk.read_of_write {d d' : Disk} {p : Path} {contents : Bytes}
    (h : d.write p contents = .ok d') : d'.read p = .ok contents := by
  obtain ⟨tree, hwrite, rfl⟩ := write_eq_ok.mp h
  exact FileTree.read_of_write hwrite

theorem Disk.exists?_of_write {d d' : Disk} {p : Path} {contents : Bytes}
    (h : d.write p contents = .ok d') : d'.exists? p = true := by
  have hread : d'.tree.read d'.wd p = .ok contents := Disk.read_of_write h
  unfold FileTree.read at hread
  unfold Disk.exists? FileTree.exists?
  cases hfind : d'.tree.find d'.wd p with
  | error fault => simp [hfind] at hread
  | ok found => rfl

end Waymark
