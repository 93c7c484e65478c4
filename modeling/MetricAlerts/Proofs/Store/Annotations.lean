import MetricAlerts.Proofs.Dict
import MetricAlerts.Proofs.Store.Addressing
import MetricAlerts.Proofs.Store.Run
import MetricAlerts.Proofs.Store.View

/-! The annotations of active alerts. They lie over each other in layers: those that are added to an
alert cover those with the same keys and leave all others as they are. No operation but the one that
adds them changes the annotations of an alert. -/

namespace MetricAlerts

/-- Layers of annotations over each other, the later ones above. -/
def overlay (layers : List (Dict Json)) (base : Dict Json) : Dict Json :=
  layers.foldl (fun below layer => below.insertAll layer.entries) base

@[simp] theorem overlay_nil (base : Dict Json) : overlay [] base = base := rfl

theorem overlay_append (first second : List (Dict Json)) (base : Dict Json) :
    overlay (first ++ second) base = overlay second (overlay first base) :=
  List.foldl_append

/-- What is seen under a key is what the last layer has that has the key. -/
theorem get?_overlay (layers : List (Dict Json)) (base : Dict Json) (key : String) :
    (overlay layers base).get? key =
      (layers.reverse.findSome? fun layer => layer.get? key).or (base.get? key) := by
  induction layers generalizing base with
  | nil => rfl
  | cons layer layers ih =>
    have below : (base.insertAll layer.entries).get? key =
        (layer.get? key).or (base.get? key) := by
      rw [Dict.get?_insertAll, ← Dict.get?_ofList, Dict.ofList_entries]
    rw [overlay, List.foldl_cons]
    show (overlay layers _).get? key = _
    rw [ih, below, List.reverse_cons, List.findSome?_append, List.findSome?_singleton,
      Option.or_assoc]

theorem get?_overlay_of_forall {layers : List (Dict Json)} {key : String}
    (h : ∀ layer ∈ layers, layer.get? key = none) (base : Dict Json) :
    (overlay layers base).get? key = base.get? key := by
  have absent : (layers.reverse.findSome? fun layer => layer.get? key) = none := by
    rw [List.findSome?_eq_none_iff]
    intro layer mem
    exact h layer (List.mem_reverse.mp mem)
  rw [get?_overlay, absent, Option.none_or]

namespace AlertStore

variable {s s' : AlertStore} {name id : String} {fields : Dict Json} {a b : Alert}
  {operation : Operation}

theorem Sound.view_eq_none_iff (sound : s.Sound) : s.view id = none ↔ id ∉ s.ids := by
  have known : (∃ a, s.view id = some a) ↔ id ∈ s.ids := by
    simp only [view_eq_some_iff sound.ids_nodup, ids, List.mem_map, Prod.exists]
    constructor
    · rintro ⟨a, key, mem, same⟩
      exact ⟨key, a, mem, same⟩
    · rintro ⟨key, a, mem, same⟩
      exact ⟨a, key, mem, same⟩
  rw [← known, not_exists]
  exact Option.eq_none_iff_forall_ne_some

theorem Sound.mem_ids_of_view (sound : s.Sound) (h : s.view id = some a) : id ∈ s.ids := by
  by_contra absent
  rw [sound.view_eq_none_iff.mpr absent] at h
  cases h

/-- What is known after an operation was known before, or the operation returns it. -/
theorem Sound.view_after (sound : s.Sound)
    (unused : ∀ a ∈ s.createdBy operation, s.IsUnused a.id) (kept : operation ≠ .clear)
    (h : (s.after operation).view id = some b) :
    s.view id = some b ∨ (b ∈ s.createdBy operation ∨ b ∈ s.updatedBy operation) ∧ b.id = id := by
  rw [sound.view_edits (edits_announced sound unused kept)] at h
  rcases mem_of_replayFrom h with before | ⟨same, told⟩
  · exact .inl before
  · exact .inr ⟨by simpa [announcement] using told, same⟩

theorem exists_of_change? {f : Alert → Alert} (h : a ∈ (s.change? name f).map Prod.fst) :
    ∃ key old, (key, old) ∈ s.active ∧ a = f old := by
  obtain ⟨⟨a, s'⟩, hChanged, rfl⟩ := Option.map_eq_some_iff.mp h
  obtain ⟨key, -, hChanged⟩ := Option.bind_eq_some_iff.mp hChanged
  obtain ⟨old, found, hChanged⟩ := Option.map_eq_some_iff.mp hChanged
  cases hChanged
  exact ⟨key, old, mem_of_lookup? found, rfl⟩

/-- An alert that an operation returns as changed has been made of an active one, and only one
operation makes another of its annotations. -/
theorem exists_revision (h : a ∈ s.updatedBy operation) :
    ∃ key old, (key, old) ∈ s.active ∧ Revision old a ∧
      ((∀ name fields, operation ≠ .mergeAnnotations name fields) →
        a.annotations = old.annotations) := by
  cases operation with
  | acknowledge name now =>
    obtain ⟨key, old, mem, rfl⟩ := exists_of_change? h
    refine ⟨key, old, mem, .acknowledged now, fun _ => ?_⟩
    unfold acknowledgedCopy
    split <;> rfl
  | mergeAnnotations name fields =>
    obtain ⟨key, old, mem, rfl⟩ := exists_of_change? h
    exact ⟨key, old, mem, .annotated fields, fun other => absurd rfl (other name fields)⟩
  | _ => cases h

/-- An id that no active alert has stands for nothing, unless something else is kept under it. -/
theorem keyOf?_eq_none (absent : name ∉ s.ids) (only : s.IsIdOnly name) : s.keyOf? name = none := by
  have other : ∀ e ∈ s.active, e.2.id ≠ name := fun e mem same =>
    absent (same ▸ List.mem_map_of_mem mem)
  have free : lookup? name s.active = none := by
    rw [lookup?_eq_none_iff]
    intro isKey
    obtain ⟨e, mem, hKey⟩ := List.mem_map.mp isKey
    exact other e mem (only e mem hKey)
  have unheld : (s.active.find? fun e => e.2.id == name) = none := by
    rw [List.find?_eq_none]
    intro e mem
    simpa using other e mem
  rw [keyOf?, free, unheld]
  rfl

theorem mergeAnnotations?_eq_none (absent : name ∉ s.ids) (only : s.IsIdOnly name)
    (fields : Dict Json) : s.mergeAnnotations? name fields = none := by
  rw [mergeAnnotations?, change?, keyOf?_eq_none absent only]
  rfl

/-- The annotations are added to the alert with the id, if it is active, and to no other. -/
theorem Sound.view_mergeAnnotations (sound : s.Sound) (only : s.IsIdOnly name)
    (fields : Dict Json) (id : String) :
    (s.after (.mergeAnnotations name fields)).view id =
      (s.view id).map fun a => if id = name then annotatedCopy fields a else a := by
  by_cases known : name ∈ s.ids
  · obtain ⟨⟨key, a⟩, mem, rfl⟩ := List.mem_map.mp known
    obtain ⟨first, key', rest, acts⟩ := (sound.actsOn_id_iff mem).mpr only
    have edit := edit_of_mergeAnnotations? (acts.mergeAnnotations fields)
    have found : s.view a.id = some a := (view_eq_some_iff sound.ids_nodup).mpr ⟨key, mem, rfl⟩
    rw [AlertStore.after, orSame, acts.mergeAnnotations, Option.map_some, Option.getD_some,
      sound.view_edit edit]
    have same : (annotatedCopy fields a).id = a.id := rfl
    rw [Event.applyTo, View.set, same]
    split
    · next h => rw [h, found, Option.map_some]
    · rw [Option.map_id']
  · rw [AlertStore.after, orSame, mergeAnnotations?_eq_none known only]
    show s.view id = _
    by_cases same : id = name
    · rw [same, sound.view_eq_none_iff.mpr known]
      rfl
    · simp only [if_neg same, Option.map_id']

theorem Edit.isIdOnly (edit : s.Edit (.updated a) s') (only : s.IsIdOnly name) :
    s'.IsIdOnly name := by
  cases edit with
  | @changed before after key old new split revision =>
    intro e mem hKey
    rcases List.mem_append.mp mem with mem | mem
    · exact only e (by simp [split, mem]) hKey
    · rcases List.mem_cons.mp mem with rfl | mem
      · exact revision.id.trans (only (key, old) (by simp [split]) hKey)
      · exact only e (by simp [split, mem]) hKey

end AlertStore

end MetricAlerts
