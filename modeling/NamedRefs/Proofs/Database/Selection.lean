/-
Module: NamedRefs.Proofs.Database.Selection
Purpose: Filtering by a name agrees with looking the name up.
Main exports: Store.Invariant.selected_of_isPlain, Database.list_of_isPlain,
  Database.valid_name_selects_its_reference
-/
import NamedRefs.Proofs.Database.Listing
import NamedRefs.Proofs.Glob.Plain

namespace NamedRefs

/-!
A lookup goes through the index and a filtered pass goes through the slots.  They agree on a plain name
because the glob of such a name stops at that name only, and because no name occupies two slots: the
pass finds at most one reference, and it is the one that the index leads to.
-/

/-- At most one element has no other order. -/
private theorem eq_toList_of_perm {Element : Type} {elements : List Element}
    {single : Option Element} (same : elements.Perm single.toList) : elements = single.toList := by
  cases single with
  | none => exact List.perm_nil.mp same
  | some element => exact List.perm_singleton.mp same

/-- A plain name selects what is found under it. -/
theorem Store.Invariant.mem_selected_of_isPlain {store : Store} (invariant : store.Invariant)
    {name : String} (plain : Glob.IsPlain name) (reference : Reference) :
    reference ∈ store.selected (some name) ↔ store.find? name = some reference := by
  rw [invariant.mem_selected_iff, lookup_eq_ok_iff]
  constructor
  · rintro ⟨found, chosen⟩
    have sameName := (Glob.selects_of_isPlain plain reference.name).mp (chosen name rfl)
    rwa [sameName] at found
  · intro found
    obtain ⟨rfl, _⟩ := invariant.find?_eq_some_iff.mp found
    refine ⟨found, ?_⟩
    rintro text ⟨⟩
    exact (Glob.selects_of_isPlain plain reference.name).mpr rfl

/-- A pattern without special characters selects the reference of that name, if there is one. -/
theorem Store.Invariant.selected_of_isPlain {store : Store} (invariant : store.Invariant)
    {name : String} (plain : Glob.IsPlain name) :
    store.selected (some name) = (store.find? name).toList := by
  apply eq_toList_of_perm
  have distinct : (store.selected (some name)).Nodup :=
    (invariant.nodup_names_selected (some name)).of_map
  have atMostOne : (store.find? name).toList.Nodup := by
    cases store.find? name <;> simp
  apply (List.perm_ext_iff_of_nodup distinct atMostOne).mpr
  intro reference
  rw [invariant.mem_selected_of_isPlain plain, Option.mem_toList]

namespace Database

/-- A listing of at most one reference needs no sorting. -/
theorem list_of_isPlain {database : Database} (invariant : database.store.Invariant) {name : String}
    (plain : Glob.IsPlain name) :
    database.list (some name) = (database.store.find? name).toList := by
  apply eq_toList_of_perm
  rw [← invariant.selected_of_isPlain plain]
  exact database.list_perm (some name)

/-- A pattern without special characters selects the text that it is and no other, and every valid
name is such a pattern.  Hence in every database that calls lead to, a pass over the references and
a listing that are filtered by a valid name have exactly the reference that looking the name up gives,
and nothing when the lookup fails, which it does only because the name is missing. -/
theorem valid_name_selects_its_reference (config : StoreConfig) (calls : List Call) :
    let database := (empty config).run calls
    let store := database.store
    (∀ pattern : String, (∀ character ∈ pattern.toList, character ∉ ['*', '?', '[', '\\']) →
      ∀ text, (Glob.ofPattern pattern).selects text = true ↔ text = pattern) ∧
    ∀ name, RefName.check name = .ok () →
      (∀ character ∈ name.toList, character ∉ ['*', '?', '[', '\\']) ∧
      (∀ reference, store.lookup name = .ok reference →
        reference.name = name ∧
        store.iterate (some name) = [reference] ∧ store.names (some name) = [name] ∧
        database.list (some name) = [reference] ∧ database.listNames (some name) = [name]) ∧
      ∀ error, store.lookup name = .error error →
        error = .notFound name ∧
        store.iterate (some name) = [] ∧ store.names (some name) = [] ∧
        database.list (some name) = [] ∧ database.listNames (some name) = [] := by
  intro database store
  have invariant : store.Invariant := invariant_run (Store.invariant_empty config) calls
  refine ⟨fun pattern => Glob.selects_of_isPlain, ?_⟩
  intro name valid
  have plain := RefName.isPlain_of_isValid ((RefName.check_eq_ok_iff name).mp valid)
  have selected := invariant.selected_of_isPlain plain
  have listed : database.list (some name) = (store.find? name).toList :=
    list_of_isPlain invariant plain
  rw [store.iterate_eq, store.names_eq, listNames_eq, listed, selected]
  refine ⟨plain, ?_, ?_⟩
  · intro reference looked
    have found := Store.lookup_eq_ok_iff.mp looked
    obtain ⟨sameName, _⟩ := invariant.find?_eq_some_iff.mp found
    simp [found, sameName]
  · intro error failed
    obtain ⟨missing, rfl⟩ := Store.lookup_eq_error_iff.mp failed
    simp [missing]

end Database

end NamedRefs
