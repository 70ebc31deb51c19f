import NodeBootstrap.Settings.Merging

/-! # Merging into tables

A source that names no key twice is laid over empty settings as it is, except that its tables lose
their origins, and in whatever order its entries are taken. A single entry is put into the section
that it names. -/

namespace NodeBootstrap.Setting

open Settings

theorem lookup_eq_none_of_not_mem {α : Type} {key : String} {es : List (String × α)}
    (h : key ∉ es.map Prod.fst) : es.lookup key = none := by
  rw [List.lookup_eq_none_iff]
  exact fun e he => bne_iff_ne.mpr fun heq => h (heq ▸ List.mem_map_of_mem he)

theorem lookup_perm {α : Type} {es es' : List (String × α)} (once : (es.map Prod.fst).Nodup)
    (perm : es'.Perm es) (key : String) : es'.lookup key = es.lookup key := by
  induction perm with
  | nil => rfl
  | cons e _ ih =>
      rw [List.map_cons, List.nodup_cons] at once
      rw [List.lookup_cons, List.lookup_cons, ih once.2]
  | swap e e' es =>
      obtain ⟨k, s⟩ := e
      obtain ⟨k', s'⟩ := e'
      have hne : k ≠ k' := by
        rintro rfl
        simp at once
      by_cases h : key = k
      · subst h
        simp [List.lookup_cons, beq_eq_false_iff_ne.mpr hne]
      · simp [List.lookup_cons, beq_eq_false_iff_ne.mpr h]
  | trans _ perm ih ih' =>
      rw [ih ((perm.map Prod.fst).nodup_iff.mpr once), ih' once]

theorem lookup_mergeEntries {es : List (String × Setting)} (once : (es.map Prod.fst).Nodup)
    (old : List (String × Setting)) (key : String) :
    (mergeEntries es old).lookup key =
      ((es.lookup key).map fun s => merge s ((old.lookup key).getD gap)).or (old.lookup key) := by
  induction es generalizing old with
  | nil => simp [mergeEntries]
  | cons e es ih =>
      obtain ⟨first, s⟩ := e
      rw [List.map_cons, List.nodup_cons] at once
      rw [mergeEntries, ih once.2, lookup_setEntry]
      by_cases h : key = first
      · subst h
        simp [lookup_eq_none_of_not_mem once.1]
      · simp [h, List.lookup_cons, beq_eq_false_iff_ne.mpr h]

/-- The keys of a source are names, not paths, and none is stated twice. -/
structure Apart (es : List (String × Setting)) : Prop where
  once : (es.map Prod.fst).Nodup
  names : ∀ e ∈ es, KeyPath.ofString e.1 = .ofKey e.1

instance (es : List (String × Setting)) : Decidable (Apart es) :=
  decidable_of_iff
    ((es.map Prod.fst).Nodup ∧ ∀ e ∈ es, KeyPath.ofString e.1 = .ofKey e.1)
    ⟨fun h => ⟨h.1, h.2⟩, fun h => ⟨h.once, h.names⟩⟩

/-- A source whose keys are plain names is merged key by key. -/
theorem overlay_of_names {es : List (String × Setting)}
    (names : ∀ e ∈ es, KeyPath.ofString e.1 = .ofKey e.1) (old : List (String × Setting)) :
    (table none old).overlay es = table none (mergeEntries es old) := by
  induction es generalizing old with
  | nil => rw [overlay, List.foldl_nil, mergeEntries]
  | cons e es ih =>
      obtain ⟨first, s⟩ := e
      have hput : (table none old).put (.ofString first) s =
          table none (setEntry first (merge s ((old.lookup first).getD gap)) old) := by
        rw [names _ List.mem_cons_self]
        rfl
      have hfirst : (table none old).overlay ((first, s) :: es) =
          ((table none old).put (.ofString first) s).overlay es := rfl
      rw [hfirst, hput, ih fun e he => names e (List.mem_cons_of_mem _ he), mergeEntries]

/-- Entries that reach different settings may be taken in any order. -/
theorem exists_overlay_perm {es es' : List (String × Setting)} (apart : Apart es)
    (perm : es'.Perm es) (old : List (String × Setting)) :
    ∃ laid laid', (table none old).overlay es = table none laid ∧
      (table none old).overlay es' = table none laid' ∧ ∀ key, laid'.lookup key = laid.lookup key := by
  have once' : (es'.map Prod.fst).Nodup := (perm.map Prod.fst).nodup_iff.mpr apart.once
  refine ⟨_, _, overlay_of_names apart.names old,
    overlay_of_names (fun e he => apart.names e (perm.mem_iff.mp he)) old, fun key => ?_⟩
  rw [lookup_mergeEntries once', lookup_mergeEntries apart.once, lookup_perm apart.once perm]

/-! ## Single entries -/

/-- What is laid over a table leaves a table. -/
theorem exists_table_overlay (source es : List (String × Setting)) :
    ∃ laid, (table none es).overlay source = table none laid := by
  induction source generalizing es with
  | nil => exact ⟨es, rfl⟩
  | cons e source ih => exact ih _

theorem put_ofKey (o : Option String) (es : List (String × Setting)) (key : String) (s : Setting) :
    (table o es).put (.ofKey key) s =
      table o (setEntry key (merge s ((es.lookup key).getD gap)) es) := rfl

/-- An entry of a section, which becomes a table if it is none. -/
theorem put_section (o : Option String) (es : List (String × Setting)) (name key : String)
    (s : Setting) :
    let old := ((es.lookup name).getD gap).asTable
    (table o es).put ⟨name, [.name key]⟩ s =
      table o (setEntry name
        (table old.1 (setEntry key (merge s ((old.2.lookup key).getD gap)) old.2)) es) := rfl

/-! ## Settings of a JSON document -/

theorem lookup_ofJsonFields (origin : String) (fields : List (String × Json)) (key : String) :
    (ofJsonFields origin fields).lookup key = (fields.lookup key).map (ofJson origin) := by
  induction fields with
  | nil => rfl
  | cons field fields ih =>
      obtain ⟨first, j⟩ := field
      rw [ofJsonFields, List.lookup_cons, List.lookup_cons, ih]
      split <;> rfl

theorem keys_ofJsonFields (origin : String) (fields : List (String × Json)) :
    (ofJsonFields origin fields).map Prod.fst = fields.map Prod.fst := by
  induction fields with
  | nil => rfl
  | cons field fields ih => rw [ofJsonFields, List.map_cons, ih, List.map_cons]

/-- The setting that a value of a document becomes, where nothing stands yet. -/
def laid (origin : String) (j : Json) : Setting := merge (ofJson origin j) gap

/-- The settings that the fields of an object become. -/
def laidFields (origin : String) (fields : List (String × Json)) : List (String × Setting) :=
  mergeEntries (ofJsonFields origin fields) []

theorem laid_object (origin : String) (fields : List (String × Json)) :
    laid origin (.object fields) = table none (laidFields origin fields) := by
  rw [laid, ofJson, merge]
  rfl

theorem lookup_laidFields {fields : List (String × Json)} (once : (fields.map Prod.fst).Nodup)
    (origin key : String) :
    (laidFields origin fields).lookup key = (fields.lookup key).map (laid origin) := by
  rw [← keys_ofJsonFields origin] at once
  rw [laidFields, lookup_mergeEntries once, lookup_ofJsonFields]
  simp only [List.lookup_nil, Option.getD_none, Option.or_none, Option.map_map]
  rfl

end NodeBootstrap.Setting
