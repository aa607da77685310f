import Mathlib.Data.List.Nodup
import Waymark.Json.Record
import Waymark.Proofs.Overlay

/-! What a record reads from an object, field by field, and when it reads back what it writes. -/

namespace Waymark.Json.Record
variable {σ α β : Type} {r : Record σ α} {values : String → Option Json} {s : σ} {a : α} {b : β}
  {key : String} {get : σ → α} {c : Codec α} {missing : α}

/-- The value that a record has from the values under its keys, if each of them fits its field. -/
structure Reads (r : Record σ α) (values : String → Option Json) (a : α) : Prop where
  build : r.build values = .ok a
  check : ∀ f ∈ r.fields, ∀ v, values f.key = some v → f.check v = .ok ()

theorem reads_pure {a' : α} : (pure a' : Record σ α).Reads values a ↔ a' = a := by
  constructor
  · intro h
    exact Except.ok.inj h.build
  · rintro rfl
    exact ⟨rfl, fun f hf => absurd hf List.not_mem_nil⟩

theorem build_seq_eq_ok {f : Record σ (α → β)} :
    (f <*> r).build values = .ok b ↔
      ∃ g a, f.build values = .ok g ∧ r.build values = .ok a ∧ g a = b := by
  change (f.seq r).build values = .ok b ↔ _
  unfold Record.seq
  dsimp only
  cases f.build values <;> cases r.build values <;> simp [Except.map]

theorem reads_seq {f : Record σ (α → β)} :
    (f <*> r).Reads values b ↔ ∃ g a, f.Reads values g ∧ r.Reads values a ∧ g a = b := by
  have hfields : (f <*> r).fields = f.fields ++ r.fields := rfl
  constructor
  · intro h
    obtain ⟨g, a, hg, ha, hb⟩ := build_seq_eq_ok.mp h.build
    have hcheck := h.check
    rw [hfields] at hcheck
    exact ⟨g, a, ⟨hg, fun e he => hcheck e (List.mem_append_left _ he)⟩,
      ⟨ha, fun e he => hcheck e (List.mem_append_right _ he)⟩, hb⟩
  · rintro ⟨g, a, hg, ha, hb⟩
    refine ⟨build_seq_eq_ok.mpr ⟨g, a, hg.build, ha.build, hb⟩, fun e he => ?_⟩
    rw [hfields, List.mem_append] at he
    exact he.elim (hg.check e) (ha.check e)

theorem reads_map {g : α → β} : (g <$> r).Reads values b ↔ ∃ a, r.Reads values a ∧ g a = b := by
  change ((pure g : Record σ (α → β)) <*> r).Reads values b ↔ _
  simp only [reads_seq, reads_pure]
  constructor
  · rintro ⟨_, a, rfl, h⟩
    exact ⟨a, h⟩
  · rintro ⟨a, h⟩
    exact ⟨g, a, rfl, h⟩

theorem mapError_eq_ok {ε ε' : Type} {f : ε → ε'} {x : Except ε α} :
    x.mapError f = .ok a ↔ x = .ok a := by
  cases x with
  | error e => exact ⟨nofun, nofun⟩
  | ok a' =>
    exact ⟨fun h => congrArg Except.ok (Except.ok.inj h),
      fun h => congrArg Except.ok (Except.ok.inj h)⟩

theorem readField_eq_ok {v : Json} : readField c v = .ok a ↔ c.decode v = .ok a := mapError_eq_ok

theorem reads_required :
    (required key get c).Reads values a ↔ ∃ v, values key = some v ∧ c.decode v = .ok a := by
  constructor
  · rintro ⟨hbuild, -⟩
    dsimp only [required] at hbuild
    cases hv : values key with
    | none => simp [hv] at hbuild
    | some v =>
      rw [hv] at hbuild
      exact ⟨v, rfl, readField_eq_ok.mp hbuild⟩
  · rintro ⟨v, hv, hd⟩
    refine ⟨?_, ?_⟩
    · simpa only [required, hv] using readField_eq_ok.mpr hd
    · simp [required, hv, hd, Except.map]

theorem reads_optional :
    (optional key get c missing).Reads values a ↔
      (values key = none → a = missing) ∧ ∀ v, values key = some v → c.decode v = .ok a := by
  constructor
  · rintro ⟨hbuild, -⟩
    dsimp only [optional] at hbuild
    cases hv : values key with
    | none => simp_all
    | some v =>
      rw [hv] at hbuild
      simpa using readField_eq_ok.mp hbuild
  · rintro ⟨hnone, hsome⟩
    refine ⟨?_, ?_⟩
    · dsimp only [optional]
      cases hv : values key with
      | none => rw [hnone hv]
      | some v => exact readField_eq_ok.mpr (hsome v hv)
    · intro f hf v hv
      obtain rfl := List.mem_singleton.mp hf
      simp [hsome v hv, Except.map]

/-- No two fields stand under one key. -/
def Apart (r : Record σ α) : Prop := (r.fields.map (·.key)).Nodup

instance : Decidable r.Apart := inferInstanceAs (Decidable (r.fields.map (·.key)).Nodup)

theorem checkEntries_eq_ok (hr : r.Apart) {entries : List (String × Json)} :
    checkEntries r.fields entries = .ok () ↔
      ∀ f ∈ r.fields, ∀ v, (f.key, v) ∈ entries → f.check v = .ok () := by
  induction entries with
  | nil => simp [checkEntries]
  | cons e entries ih =>
    obtain ⟨key, w⟩ := e
    rw [checkEntries]
    cases hfind : r.fields.find? (·.key == key) with
    | none =>
      have hnot : ∀ f ∈ r.fields, f.key ≠ key := by simpa using List.find?_eq_none.mp hfind
      simp only [ih, List.mem_cons, Prod.mk.injEq]
      refine forall₂_congr fun f hf => forall_congr' fun v => ?_
      simp [hnot f hf]
    | some g =>
      have hg : g ∈ r.fields := List.mem_of_find?_eq_some hfind
      have hkey : g.key = key := by simpa using List.find?_some hfind
      have hsame : ∀ f ∈ r.fields, f.key = key → f = g := fun f hf h =>
        List.inj_on_of_nodup_map hr hf hg (h.trans hkey.symm)
      dsimp only
      constructor
      · intro h f hf v hv
        cases hw : g.check w with
        | error m => simp [hw] at h
        | ok u =>
          simp only [hw] at h
          obtain heq | hv := List.mem_cons.mp hv
          · obtain ⟨hk, rfl⟩ := Prod.mk.inj heq
            rw [hsame f hf hk, hw]
          · exact ih.mp h f hf v hv
      · intro h
        rw [h g hg w (by simp [hkey])]
        exact ih.mpr fun f hf v hv => h f hf v (List.mem_cons_of_mem _ hv)

/-- A record is read from an object exactly if it has its value from what stands under its keys.
-/
theorem decodeObject_eq_ok_iff (hr : r.Apart) {t : Table Json} (ht : t.Sorted) :
    r.decodeObject t = .ok a ↔ r.Reads (Table.get? t) a := by
  have hcheck : checkEntries r.fields t = .ok () ↔
      ∀ f ∈ r.fields, ∀ v, Table.get? t f.key = some v → f.check v = .ok () := by
    simp only [checkEntries_eq_ok hr, Table.get?_eq_some_iff ht]
  rw [decodeObject]
  cases hc : checkEntries r.fields t with
  | error m =>
    refine ⟨fun h => by simp at h, fun h => ?_⟩
    rw [hcheck.mpr h.check] at hc
    cases hc
  | ok u =>
    dsimp only
    constructor
    · intro h
      refine ⟨?_, hcheck.mp hc⟩
      cases hb : r.build (Table.get? t) with
      | ok a' => simpa [hb] using h
      | error gap => cases gap <;> simp [hb] at h
    · intro h
      rw [h.build]

/-! ### Reading back what was written -/

theorem sorted_entries : (r.entries s).Sorted := Table.sorted_overlay List.Pairwise.nil

theorem get?_entries (hr : r.Apart) {f : Field σ} (hf : f ∈ r.fields) :
    (r.entries s).get? f.key = f.write s := by
  have hmem : ∀ {k v}, (k, v) ∈ (r.fields.filterMap fun g => (g.write s).map fun v => (g.key, v)) ↔
      ∃ g ∈ r.fields, g.write s = some v ∧ g.key = k := by
    simp [Option.map_eq_some_iff]
  cases hw : f.write s with
  | none =>
    refine Table.get?_overlay_of_notMem fun hk => ?_
    obtain ⟨⟨k, v⟩, he, hk⟩ := List.mem_map.mp hk
    obtain ⟨g, hg, hgw, hgk⟩ := hmem.mp he
    obtain rfl := List.inj_on_of_nodup_map hr hg hf (hgk.trans hk)
    rw [hw] at hgw
    cases hgw
  | some v =>
    refine Table.get?_overlay_of_mem ?_ (hmem.mpr ⟨f, hf, hw, rfl⟩)
    refine List.pairwise_map.mpr (List.Pairwise.filterMap _ ?_ (List.pairwise_map.mp hr))
    intro g g' hne e he e' he'
    obtain ⟨w, -, rfl⟩ := Option.map_eq_some_iff.mp he
    obtain ⟨w', -, rfl⟩ := Option.map_eq_some_iff.mp he'
    exact hne

/-- What the structure `s` writes under the keys of the record gives `a` back. -/
def Restores (r : Record σ α) (s : σ) (a : α) : Prop :=
  ∀ values : String → Option Json, (∀ f ∈ r.fields, values f.key = f.write s) → r.Reads values a

theorem restores_seq {f : Record σ (α → β)} {g : α → β} (hf : f.Restores s g)
    (hr : r.Restores s a) : (f <*> r).Restores s (g a) := by
  intro values hvalues
  refine reads_seq.mpr ⟨g, a, hf values fun e he => ?_, hr values fun e he => ?_, rfl⟩
  · exact hvalues e (List.mem_append_left _ he)
  · exact hvalues e (List.mem_append_right _ he)

theorem restores_map {g : α → β} (hr : r.Restores s a) : (g <$> r).Restores s (g a) :=
  restores_seq (fun _ _ => reads_pure.mpr rfl) hr

theorem restores_required (h : c.decode (c.encode (get s)) = .ok (get s)) :
    (required key get c).Restores s (get s) := fun _ hvalues =>
  reads_required.mpr ⟨_, hvalues _ List.mem_cons_self, h⟩

theorem restores_optional (h : c.decode (c.encode (get s)) = .ok (get s)) :
    (optional key get c missing).Restores s (get s) := by
  intro values hvalues
  have hv : values key = some (c.encode (get s)) := hvalues _ List.mem_cons_self
  simp [reads_optional, hv, h]

theorem decodeObject_entries (hr : r.Apart) (h : r.Restores s a) :
    r.decodeObject (r.entries s) = .ok a :=
  (decodeObject_eq_ok_iff hr sorted_entries).mpr (h _ fun _ => get?_entries hr)

theorem decode_encode {r : Record σ σ} {name : String} {setting : Setting} {s' : σ} (hr : r.Apart)
    (h : r.Restores s s') :
    (r.codec name setting).decode ((r.codec name setting).encode s) = .ok s' :=
  decodeObject_entries hr h

theorem codec_faithful {r : Record σ σ} {name : String} {setting : Setting} {p : σ → Prop}
    (hr : r.Apart) (h : ∀ s, p s → r.Restores s s) : (r.codec name setting).Faithful p :=
  fun s hs => decode_encode hr (h s hs)

end Waymark.Json.Record
