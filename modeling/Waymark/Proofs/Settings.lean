import Mathlib.Data.List.Induction
import Waymark.Proofs.Files.Spelling
import Waymark.Proofs.Json.Records
import Waymark.Settings

/-! Settings laid over others, key by key. Whether a value can be laid over settings does not depend
on the settings, as long as they can be written, and of several layers the latest that has a key
decides. -/

namespace Waymark.Settings
open Json
open Json.Record (optional get?_entries reads_optional reads_seq reads_map decodeObject_eq_ok_iff
  mapError_eq_ok sorted_entries)
variable {α : Type} {s s' s₁ s₂ missing : Settings} {a b v : Json} {vs : List Json} {key : String}
  {read : Json → Option α} {old mid new : α} {found found' : String → Option Json}

/-- What stands under the keys of a value; of several entries under one key the last counts. -/
def overrides : Json → Table Json
  | .object entries => Table.overlay [] entries
  | _ => []

/-- Whether a value has keys. -/
def isObject : Json → Bool
  | .object _ => true
  | _ => false

/-- The flag that a value stands for. -/
def flag? : Json → Option Bool
  | .bool b => some b
  | _ => none

/-- The program that a value names. Null names none. -/
def program? : Json → Option (Option String)
  | .null => some none
  | .string line => some (some line)
  | _ => none

/-- The directory that a value names. -/
def directory? : Json → Option Path
  | .string s => some (Path.ofString s)
  | _ => none

/-- A setting goes over into what was found for it, and stays as it is if nothing was. -/
def Follows (read : Json → Option α) (found : Option Json) (old new : α) : Prop :=
  match found with
  | none => new = old
  | some v => read v = some new

/-- The settings `s` become `s'` by what was found under their keys, each setting by its own. Only
for the renderer null stands for none. -/
structure LaidOver (found : String → Option Json) (s s' : Settings) : Prop where
  simpleMode : Follows flag? (found "simpleMode") s.simpleMode s'.simpleMode
  darkGraphs : Follows flag? (found "darkGraphs") s.darkGraphs s'.darkGraphs
  showStates : Follows flag? (found "showStates") s.showStates s'.showStates
  dotExecutable : Follows program? (found "dotExecutable") s.dotExecutable s'.dotExecutable
  heapDirectory : Follows directory? (found "heapDirectory") s.heapDirectory s'.heapDirectory

/-- Whether nothing was found, or a value that can be read. -/
def fits (read : Json → Option α) (found : Option Json) : Bool :=
  found.all fun v => (read v).isSome

/-- Whether a value is an object with a value of the right type under each key of a setting, as far
as it has these keys. -/
def acceptable (v : Json) : Bool :=
  isObject v && fits flag? ((overrides v).get? "simpleMode")
    && fits flag? ((overrides v).get? "darkGraphs")
    && fits flag? ((overrides v).get? "showStates")
    && fits program? ((overrides v).get? "dotExecutable")
    && fits directory? ((overrides v).get? "heapDirectory")

/-! ### One setting -/

theorem follows_none : Follows read none old new ↔ new = old := Iff.rfl

theorem follows_some : Follows read (some v) old new ↔ read v = some new := Iff.rfl

theorem Follows.trans {found found' : Option Json} (h : Follows read found old mid)
    (h' : Follows read found' mid new) : Follows read (found'.or found) old new := by
  cases found' with
  | none =>
    obtain rfl := follows_none.mp h'
    exact h
  | some v => exact h'

theorem Follows.again {found : Option Json} (h : Follows read found old new) :
    Follows read found new new := by
  cases found with
  | none => rfl
  | some v => exact h

theorem exists_follows {found : Option Json} :
    (∃ new, Follows read found old new) ↔ fits read found = true := by
  cases found with
  | none => simp [follows_none, fits]
  | some v => simp [follows_some, fits, Option.isSome_iff_exists]

theorem Follows.fits {found : Option Json} (h : Follows read found old new) :
    fits read found = true := exists_follows.mp ⟨new, h⟩

theorem isText_of_directory? {p : Path} (h : directory? v = some p) : p.IsText := by
  cases v with
  | string s => exact ⟨s, (Option.some.inj h).symm⟩
  | _ => cases h

/-! ### All settings -/

theorem LaidOver.trans (h : LaidOver found s s₁) (h' : LaidOver found' s₁ s₂) :
    LaidOver (fun key => (found' key).or (found key)) s s₂ where
  simpleMode := h.simpleMode.trans h'.simpleMode
  darkGraphs := h.darkGraphs.trans h'.darkGraphs
  showStates := h.showStates.trans h'.showStates
  dotExecutable := h.dotExecutable.trans h'.dotExecutable
  heapDirectory := h.heapDirectory.trans h'.heapDirectory

theorem LaidOver.again (h : LaidOver found s s') : LaidOver found s' s' where
  simpleMode := h.simpleMode.again
  darkGraphs := h.darkGraphs.again
  showStates := h.showStates.again
  dotExecutable := h.dotExecutable.again
  heapDirectory := h.heapDirectory.again

/-- A directory that is laid over is text. -/
theorem LaidOver.isText (h : LaidOver found s s') (htext : s.heapDirectory.IsText) :
    s'.heapDirectory.IsText := by
  have hdirectory := h.heapDirectory
  cases hfound : found "heapDirectory" with
  | none =>
    rw [hfound, follows_none] at hdirectory
    rwa [hdirectory]
  | some v =>
    rw [hfound, follows_some] at hdirectory
    exact isText_of_directory? hdirectory

/-- Settings can be laid over others exactly if the value is acceptable. -/
theorem exists_laidOver_iff :
    (isObject v = true ∧ ∃ s', LaidOver (overrides v).get? s s') ↔ acceptable v = true := by
  simp only [acceptable, Bool.and_eq_true]
  constructor
  · rintro ⟨hv, s', h⟩
    exact ⟨⟨⟨⟨⟨hv, h.simpleMode.fits⟩, h.darkGraphs.fits⟩, h.showStates.fits⟩,
      h.dotExecutable.fits⟩, h.heapDirectory.fits⟩
  · rintro ⟨⟨⟨⟨⟨hv, hsimple⟩, hdark⟩, hstates⟩, hdot⟩, hheap⟩
    obtain ⟨simpleMode, hsimple⟩ := exists_follows.mpr hsimple
    obtain ⟨darkGraphs, hdark⟩ := exists_follows.mpr hdark
    obtain ⟨showStates, hstates⟩ := exists_follows.mpr hstates
    obtain ⟨dotExecutable, hdot⟩ := exists_follows.mpr hdot
    obtain ⟨heapDirectory, hheap⟩ := exists_follows.mpr hheap
    exact ⟨hv, ⟨simpleMode, darkGraphs, showStates, dotExecutable, heapDirectory⟩,
      ⟨hsimple, hdark, hstates, hdot, hheap⟩⟩

/-! ### Merging -/

theorem apart_record : (record missing).Apart :=
  show (["simpleMode", "darkGraphs", "showStates", "dotExecutable", "heapDirectory"] :
    List String).Nodup by decide

theorem reads_record {values : String → Option Json} : (record missing).Reads values s ↔
    (optional "simpleMode" simpleMode .bool missing.simpleMode).Reads values s.simpleMode ∧
      (optional "darkGraphs" darkGraphs .bool missing.darkGraphs).Reads values s.darkGraphs ∧
      (optional "showStates" showStates .bool missing.showStates).Reads values s.showStates ∧
      (optional "dotExecutable" dotExecutable Codec.string.option
        missing.dotExecutable).Reads values s.dotExecutable ∧
      (optional "heapDirectory" heapDirectory pathCodec
        missing.heapDirectory).Reads values s.heapDirectory := by
  simp only [record, reads_seq, reads_map]
  constructor
  · rintro ⟨_, heapDirectory, ⟨_, dotExecutable, ⟨_, showStates, ⟨_, darkGraphs, ⟨simpleMode, h₁,
      rfl⟩, h₂, rfl⟩, h₃, rfl⟩, h₄, rfl⟩, h₅, rfl⟩
    exact ⟨h₁, h₂, h₃, h₄, h₅⟩
  · rintro ⟨h₁, h₂, h₃, h₄, h₅⟩
    exact ⟨_, _, ⟨_, _, ⟨_, _, ⟨_, _, ⟨_, h₁, rfl⟩, h₂, rfl⟩, h₃, rfl⟩, h₄, rfl⟩, h₅, rfl⟩

/-- The written settings below an object decide where the object has nothing to say. -/
theorem reads_setting {c : Codec α} {get : Settings → α} {other : α}
    {entries : List (String × Json)} (hread : ∀ v a, c.decode v = .ok a ↔ read v = some a)
    (hwritten : c.decode (c.encode (get s)) = .ok (get s))
    (hf : ⟨key, fun s => some (c.encode (get s)), fun v => (c.decode v).map fun _ => ()⟩ ∈
      (record missing).fields) :
    (optional key get c other).Reads
        (Table.get? (Table.overlay ((record missing).entries s) entries)) new ↔
      Follows read ((overrides (.object entries)).get? key) (get s) new := by
  have hentry : ((record missing).entries s).get? key = some (c.encode (get s)) :=
    get?_entries apart_record hf
  rw [reads_optional, Table.get?_overlay, hentry, overrides]
  cases (Table.overlay [] entries).get? key with
  | none => simp [hwritten, follows_none, eq_comm]
  | some v => simp [hread, follows_some]

theorem decode_bool {v : Json} {b : Bool} : Codec.bool.decode v = .ok b ↔ flag? v = some b := by
  cases v <;> simp [Codec.bool, flag?]

theorem decode_option_string {line : Option String} :
    Codec.string.option.decode v = .ok line ↔ program? v = some line := by
  cases v <;> simp [Codec.option, Codec.string, Codec.stringAs, Except.map, program?]

theorem decode_pathCodec {p : Path} : pathCodec.decode v = .ok p ↔ directory? v = some p := by
  cases v <;> simp [pathCodec, Codec.stringAs, Except.map, directory?]

theorem pathCodec_faithful : pathCodec.Faithful Path.IsText := by
  rintro p ⟨s, rfl⟩
  simp [pathCodec, Codec.stringAs, Except.map, Path.text?_ofString]

/-- Settings can be written if their directory is text. -/
theorem entries_eq_ok (htext : s.heapDirectory.IsText) :
    s.entries = .ok ((record s).entries s) := by
  obtain ⟨directory, hdirectory⟩ := htext
  rw [entries, Path.written_eq_ok.mpr hdirectory]
  rfl

/-- A value is merged exactly if the settings can be written and it is an object that can be laid
over, and what comes of it is told by the keys of the settings alone. -/
theorem merge_eq_ok_iff : s.merge v = .ok s' ↔
    s.heapDirectory.IsText ∧ isObject v = true ∧ LaidOver (overrides v).get? s s' := by
  cases v with
  | object entries =>
    cases hwritten : s.heapDirectory.written with
    | error e =>
      have hnot := (Path.written_eq_error hwritten).2
      simp [merge, Settings.entries, hwritten, Except.map, hnot]
    | ok directory =>
      have htext : s.heapDirectory.IsText := ⟨directory, Path.written_eq_ok.mp hwritten⟩
      have hsorted : (Table.overlay ((record s).entries s) entries).Sorted :=
        Table.sorted_overlay sorted_entries
      rw [merge]
      simp only [entries_eq_ok htext]
      rw [mapError_eq_ok, decodeObject_eq_ok_iff apart_record hsorted, reads_record,
        reads_setting (fun _ _ => decode_bool) rfl (.head _),
        reads_setting (fun _ _ => decode_bool) rfl (.tail _ (.head _)),
        reads_setting (fun _ _ => decode_bool) rfl (.tail _ (.tail _ (.head _))),
        reads_setting (fun _ _ => decode_option_string)
          (Codec.option_faithful Codec.string_faithful (fun _ => nofun) _ fun _ _ => trivial)
          (.tail _ (.tail _ (.tail _ (.head _)))),
        reads_setting (fun _ _ => decode_pathCodec) (pathCodec_faithful _ htext)
          (.tail _ (.tail _ (.tail _ (.tail _ (.head _)))))]
      constructor
      · rintro ⟨h₁, h₂, h₃, h₄, h₅⟩
        exact ⟨htext, rfl, h₁, h₂, h₃, h₄, h₅⟩
      · rintro ⟨-, -, h⟩
        exact ⟨h.simpleMode, h.darkGraphs, h.showStates, h.dotExecutable, h.heapDirectory⟩
  | _ => simp [merge, isObject]

theorem isOk_merge_iff :
    (∃ s', s.merge v = .ok s') ↔ s.heapDirectory.IsText ∧ acceptable v = true := by
  simp only [merge_eq_ok_iff, exists_and_left, exists_laidOver_iff]

theorem merge_fails_iff :
    (∃ e, s.merge v = .error e) ↔ ¬(s.heapDirectory.IsText ∧ acceptable v = true) := by
  rw [← isOk_merge_iff]
  cases s.merge v <;> simp

theorem isText_of_merge (h : s.merge v = .ok s') : s'.heapDirectory.IsText := by
  obtain ⟨htext, -, hlaid⟩ := merge_eq_ok_iff.mp h
  exact hlaid.isText htext

/-- Settings with a value laid over them, if that goes. -/
def laid (s : Settings) (v : Json) : Settings := (s.merge v).toOption.getD s

/-- Settings with values laid over them one after the other, as far as that goes. -/
def layered (s : Settings) (vs : List Json) : Settings := vs.foldl laid s

/-- What the latest layer that has a key has under it. Layers that are not acceptable do not count.
-/
def latest? (vs : List Json) (key : String) : Option Json :=
  (vs.filter acceptable).reverse.findSome? fun v => (overrides v).get? key

theorem laid_of_ok (h : s.merge v = .ok s') : s.laid v = s' := by rw [laid, h]; rfl

theorem laid_of_fails (h : ¬(s.heapDirectory.IsText ∧ acceptable v = true)) : s.laid v = s := by
  obtain ⟨e, he⟩ := merge_fails_iff.mpr h
  rw [laid, he]
  rfl

theorem layered_append_singleton : s.layered (vs ++ [v]) = (s.layered vs).laid v := by
  rw [layered, List.foldl_append]
  rfl

theorem latest?_append_of_acceptable (h : acceptable v = true) :
    latest? (vs ++ [v]) key = ((overrides v).get? key).or (latest? vs key) := by
  have hlast : (vs ++ [v]).filter acceptable = vs.filter acceptable ++ [v] := by
    simp [List.filter_append, h]
  rw [latest?, hlast, List.reverse_append, List.reverse_singleton, List.singleton_append,
    List.findSome?_cons]
  cases (overrides v).get? key <;> rfl

theorem latest?_append_of_refused (h : acceptable v = false) :
    latest? (vs ++ [v]) = latest? vs := by
  funext key
  simp [latest?, List.filter_append, h]

/-- Each setting is what the latest layer that has its key has under it. -/
theorem laidOver_layered (htext : s.heapDirectory.IsText) :
    LaidOver (latest? vs) s (s.layered vs) := by
  induction vs using List.reverseRecOn with
  | nil => exact ⟨rfl, rfl, rfl, rfl, rfl⟩
  | append_singleton vs v ih =>
    rw [layered_append_singleton]
    cases hv : acceptable v with
    | false =>
      have hfails : ¬((s.layered vs).heapDirectory.IsText ∧ acceptable v = true) := by simp [hv]
      rwa [laid_of_fails hfails, latest?_append_of_refused hv]
    | true =>
      obtain ⟨s', hmerge⟩ := isOk_merge_iff (s := s.layered vs).mpr ⟨ih.isText htext, hv⟩
      rw [laid_of_ok hmerge]
      have h := ih.trans (merge_eq_ok_iff.mp hmerge).2.2
      simpa only [← latest?_append_of_acceptable hv] using h

end Waymark.Settings
