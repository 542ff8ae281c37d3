/-
Registries through their lookups. Every write binds one name, to an engine or to none, and leaves
the other names alone (`lookup_set`, `size_set`). A registry is determined by its lookups
(`ext_lookup`), what the other observers say follows from them (`observed`), and the names come in
the order of their UTF-8 bytes.
-/
import TemplateEngines.Engine.Registry
import TemplateEngines.Proofs.Text.Utf8
import Mathlib.Data.Set.Card

namespace TemplateEngines.Registry

variable {ε : Type}

/-! ## Writes -/

theorem sorted_insert (r : Registry ε) (name : String) (engine : ε) :
    (r.bindings.insert name engine).Sorted := r.sorted.insert name engine

theorem sorted_erase (r : Registry ε) (name : String) : (r.bindings.erase name).Sorted :=
  r.sorted.erase name

/-- Binds a name to an engine, or to none. -/
def set (r : Registry ε) (name : String) : Option ε → Registry ε
  | some engine => ⟨r.bindings.insert name engine, r.sorted_insert name engine⟩
  | none => ⟨r.bindings.erase name, r.sorted_erase name⟩

theorem register_of_blank (r : Registry ε) {name : String} (engine : ε)
    (h : Text.isBlankText name) : r.register name engine = (.error (.invalidName name), r) := by
  rw [register, if_pos h]

theorem register_of_not_blank (r : Registry ε) {name : String} (engine : ε)
    (h : ¬ Text.isBlankText name) :
    r.register name engine = (.ok (r.lookup name), r.set name (some engine)) := by
  rw [register, if_neg h]
  rfl

/-- What a registration answers depends only on what its name is bound to. -/
theorem register_congr {r r' : Registry ε} {name : String} (h : r.lookup name = r'.lookup name)
    (engine : ε) : (r.register name engine).1 = (r'.register name engine).1 := by
  by_cases hblank : Text.isBlankText name
  · rw [register_of_blank r engine hblank, register_of_blank r' engine hblank]
  · rw [register_of_not_blank r engine hblank, register_of_not_blank r' engine hblank, h]

/-- A write is seen under its own name only. -/
theorem lookup_set (r : Registry ε) (name : String) (binding : Option ε) (n : String) :
    (r.set name binding).lookup n = if name = n then binding else r.lookup n := by
  cases binding with
  | some engine => exact Dict.get?_insert r.bindings name engine n
  | none => exact Dict.get?_erase r.sorted name n

/-- A write gives an engine and takes the one that was there. -/
theorem size_set (r : Registry ε) (name : String) (binding : Option ε) :
    (r.set name binding).size + (r.lookup name).toList.length = r.size + binding.toList.length := by
  cases binding with
  | some engine => exact Dict.length_insert r.sorted name engine
  | none => exact Dict.length_erase r.bindings name

/-- A registry is determined by its lookups. -/
theorem ext_lookup {r r' : Registry ε} (h : ∀ name, r.lookup name = r'.lookup name) : r = r' := by
  obtain ⟨bindings, hsorted⟩ := r
  obtain ⟨bindings', hsorted'⟩ := r'
  obtain rfl : bindings = bindings' := hsorted.ext hsorted' h
  rfl

/-- Binding a name to what it is bound to changes nothing. -/
theorem set_lookup (r : Registry ε) (name : String) : r.set name (r.lookup name) = r := by
  refine ext_lookup fun n => ?_
  rw [lookup_set]
  split
  · rename_i heq
    rw [heq]
  · rfl

/-! ## Observers -/

theorem mem_names {r : Registry ε} {name : String} : name ∈ r.names ↔ (r.lookup name).isSome :=
  Dict.mem_keys

theorem names_increasing (r : Registry ε) :
    r.names.Pairwise fun a b => a.toUTF8.data.toList < b.toUTF8.data.toList :=
  List.pairwise_map.2 (r.sorted.imp fun hlt => Text.Utf8.toUTF8_lt hlt)

theorem names_nodup (r : Registry ε) : r.names.Nodup := by
  refine List.pairwise_map.2 (r.sorted.imp fun hlt heq => ?_)
  rw [heq] at hlt
  exact String.lt_irrefl _ hlt

/-- The observers of a registry, in terms of its lookups. -/
structure Observed (r : Registry ε) : Prop where
  contains : ∀ name, r.contains name ↔ (r.lookup name).isSome
  names : ∀ name, name ∈ r.names ↔ (r.lookup name).isSome
  /-- The names are in strictly increasing order of their UTF-8 bytes. -/
  increasing : r.names.Pairwise fun a b => a.toUTF8.data.toList < b.toUTF8.data.toList
  size : r.size = Set.ncard {name | (r.lookup name).isSome}
  isEmpty : r.isEmpty ↔ ∀ name, r.lookup name = none

theorem observed (r : Registry ε) : r.Observed where
  contains _ := Iff.rfl
  names _ := mem_names
  increasing := r.names_increasing
  size := by
    have hset : {name | (r.lookup name).isSome} = (r.names.toFinset : Set String) := by
      ext name
      rw [Set.mem_ofPred_eq, List.coe_toFinset, Set.mem_ofPred_eq, mem_names]
    rw [hset, Set.ncard_coe_finset, List.toFinset_card_of_nodup r.names_nodup]
    exact (List.length_map _).symm
  isEmpty := by
    have hnames : r.isEmpty ↔ r.names = [] := List.isEmpty_iff.trans List.map_eq_nil_iff.symm
    rw [hnames, List.eq_nil_iff_forall_not_mem]
    simp only [mem_names, Bool.not_eq_true, Option.isSome_eq_false_iff, Option.isNone_iff_eq_none]

end TemplateEngines.Registry
