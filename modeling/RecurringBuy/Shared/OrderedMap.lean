import Mathlib.Data.List.MinMax
import Mathlib.Data.List.Nodup

set_option autoImplicit false

structure OrderedMap (Key Value : Type) where
  entries : List (Key × Value)
  distinct : (entries.map Prod.fst).Nodup

namespace OrderedMap

variable {Key Value : Type}

def empty : OrderedMap Key Value where
  entries := []
  distinct := List.nodup_nil

def keys (map : OrderedMap Key Value) : List Key := map.entries.map Prod.fst

def values (map : OrderedMap Key Value) : List Value := map.entries.map Prod.snd

variable [DecidableEq Key]

def find (key : Key) : List (Key × Value) → Option Value
  | [] => none
  | (other, value) :: rest => if other = key then some value else find key rest

def get (map : OrderedMap Key Value) (key : Key) : Option Value := find key map.entries

def place (key : Key) (value : Value) : List (Key × Value) → List (Key × Value)
  | [] => [(key, value)]
  | (other, old) :: rest => if other = key then (key, value) :: rest else (other, old) :: place key value rest

section Place

theorem place_keys (key : Key) (value : Value) (entries : List (Key × Value)) :
    (place key value entries).map Prod.fst =
      if key ∈ entries.map Prod.fst then entries.map Prod.fst else entries.map Prod.fst ++ [key] := by
  induction entries with
  | nil => simp [place]
  | cons entry rest ih =>
    obtain ⟨other, old⟩ := entry
    by_cases here : other = key
    next => simp [place, here]
    next =>
      simp only [place, if_neg here, List.map_cons, ih, List.mem_cons, Ne.symm here, false_or]
      split <;> rfl

theorem place_distinct (key : Key) (value : Value) (entries : List (Key × Value))
    (distinct : (entries.map Prod.fst).Nodup) : ((place key value entries).map Prod.fst).Nodup := by
  rw [place_keys]
  split
  next => exact distinct
  next fresh => exact List.nodup_append.mpr ⟨distinct, List.nodup_singleton key, by grind⟩

theorem find_place (key : Key) (value : Value) (entries : List (Key × Value)) (other : Key) :
    find other (place key value entries) = if key = other then some value else find other entries := by
  induction entries with
  | nil => simp [place, find]
  | cons entry rest ih =>
    obtain ⟨held, old⟩ := entry
    by_cases here : held = key
    next =>
      subst here
      rw [place, if_pos rfl, find, find]
      by_cases asked : held = other <;> simp [asked]
    next =>
      rw [place, if_neg here, find, find, ih]
      by_cases asked : key = other <;> grind

theorem find_none (key : Key) (entries : List (Key × Value)) :
    find key entries = none ↔ key ∉ entries.map Prod.fst := by
  induction entries with
  | nil => simp [find]
  | cons entry rest ih =>
    obtain ⟨other, value⟩ := entry
    by_cases here : other = key
    next => simp [find, here]
    next => simp [find, here, Ne.symm here, ih]

-- With distinct keys the entries are what `find` says of the keys.
theorem entries_find (entries : List (Key × Value)) (distinct : (entries.map Prod.fst).Nodup) :
    (entries.map Prod.fst).map (fun key => find key entries) = entries.map fun entry => some entry.2 := by
  induction entries with
  | nil => rfl
  | cons entry rest ih =>
    obtain ⟨key, value⟩ := entry
    rw [List.map_cons, List.nodup_cons] at distinct
    simp only [List.map_cons, find, if_true, List.cons.injEq, true_and]
    rw [← ih distinct.2]
    apply List.map_congr_left
    intro other member
    rw [if_neg]
    intro same
    exact distinct.1 (same ▸ member)

theorem find_filter (key : Key) (entries : List (Key × Value)) (distinct : (entries.map Prod.fst).Nodup) :
    (entries.filter fun entry => entry.1 = key).map Prod.snd = (find key entries).toList := by
  induction entries with
  | nil => rfl
  | cons entry rest ih =>
    obtain ⟨other, value⟩ := entry
    rw [List.map_cons, List.nodup_cons] at distinct
    by_cases here : other = key
    next =>
      subst here
      have missing := (find_none other rest).mpr distinct.1
      have nothing := ih distinct.2
      rw [missing] at nothing
      simp [find, nothing]
    next => simp [find, here, ih distinct.2]

end Place

def set (map : OrderedMap Key Value) (key : Key) (value : Value) : OrderedMap Key Value where
  entries := place key value map.entries
  distinct := place_distinct key value map.entries map.distinct

theorem get_set (map : OrderedMap Key Value) (key other : Key) (value : Value) :
    (map.set key value).get other = if key = other then some value else map.get other :=
  find_place key value map.entries other

theorem keys_set (map : OrderedMap Key Value) (key : Key) (value : Value) :
    (map.set key value).keys = if key ∈ map.keys then map.keys else map.keys ++ [key] :=
  place_keys key value map.entries

theorem get_none (map : OrderedMap Key Value) (key : Key) : map.get key = none ↔ key ∉ map.keys :=
  find_none key map.entries

theorem values_get (map : OrderedMap Key Value) : map.values.map some = map.keys.map map.get := by
  rw [values, keys, List.map_map]
  exact (entries_find map.entries map.distinct).symm

theorem get_entry (map : OrderedMap Key Value) (entry : Key × Value) (member : entry ∈ map.entries) :
    map.get entry.1 = some entry.2 := by
  have found := entries_find map.entries map.distinct
  rw [List.map_map] at found
  exact List.map_inj_left.mp found entry member

section Indexed

-- Every value is at a key of its own.
variable (map : OrderedMap Key Value) (key : Value → Key)
  (indexed : ∀ held value, map.get held = some value → key value = held)

include indexed

theorem values_keys : map.values.map key = map.keys := by
  rw [values, keys, List.map_map]
  apply List.map_congr_left
  intro entry member
  exact indexed entry.1 entry.2 (map.get_entry entry member)

theorem get_value (value : Value) (member : value ∈ map.values) : map.get (key value) = some value := by
  obtain ⟨entry, held, rfl⟩ := List.mem_map.mp member
  have found := map.get_entry entry held
  rwa [indexed entry.1 entry.2 found]

theorem values_filter (held : Key) : (map.values.filter fun value => key value = held) = (map.get held).toList := by
  have same : map.entries.filter (fun entry => key entry.2 = held) = map.entries.filter fun entry => entry.1 = held := by
    apply List.filter_congr
    intro entry member
    rw [indexed entry.1 entry.2 (map.get_entry entry member)]
  rw [values, List.filter_map, get, ← find_filter held map.entries map.distinct]
  exact congrArg (List.map Prod.snd) same

end Indexed

section KeepBest

variable {Score : Type} [LinearOrder Score] (key : Value → Key) (score : Value → Score)

def keepBest (map : OrderedMap Key Value) (item : Value) : OrderedMap Key Value :=
  match map.get (key item) with
  | some current => if score current < score item then map.set (key item) item else map
  | none => map.set (key item) item

theorem keys_keepBest (map : OrderedMap Key Value) (item : Value) :
    (keepBest key score map item).keys = if key item ∈ map.keys then map.keys else map.keys ++ [key item] := by
  unfold keepBest
  split
  next current found =>
    have known : key item ∈ map.keys := by
      by_contra missing
      rw [(get_none map (key item)).mpr missing] at found
      cases found
    rw [if_pos known]
    split
    next => rw [keys_set, if_pos known]
    next => rfl
  next => rw [keys_set]

theorem get_keepBest (map : OrderedMap Key Value) (item : Value) (other : Key) :
    (keepBest key score map item).get other =
      if key item = other then
        match map.get other with
        | some current => if score current < score item then some item else some current
        | none => some item
      else map.get other := by
  by_cases here : key item = other
  next =>
    subst here
    unfold keepBest
    split
    next current found =>
      simp only [found, if_true]
      split <;> simp [get_set, found]
    next => simp [get_set]
  next =>
    rw [if_neg here]
    unfold keepBest
    split
    next =>
      split
      next => rw [get_set, if_neg here]
      next => rfl
    next => rw [get_set, if_neg here]

theorem keys_foldl [BEq Key] [LawfulBEq Key] (items : List Value) :
    (items.foldl (keepBest key score) empty).keys = (items.map key).eraseDups := by
  induction items using List.reverseRecOn with
  | nil => rfl
  | append_singleton items item ih =>
    rw [List.foldl_concat, keys_keepBest, ih, List.map_append, List.eraseDups_append]
    simp only [List.mem_eraseDups, List.removeAll, List.map_cons, List.map_nil]
    by_cases known : key item ∈ items.map key
    next =>
      rw [if_pos known, List.filter_cons_of_neg (by simpa using known), List.filter_nil, List.eraseDups_nil,
        List.append_nil]
    next =>
      rw [if_neg known, List.filter_cons_of_pos (by simpa using known), List.filter_nil]
      rfl

/-- The first of the items under a key that has the greatest score. -/
def bestOf (items : List Value) (other : Key) : Option Value := (items.filter fun item => key item = other).argmax score

theorem bestOf_mem (items : List Value) (other : Key) (item : Value) (best : bestOf key score items other = some item) :
    item ∈ items := List.mem_of_mem_filter (List.argmax_mem best)

theorem get_foldl (items : List Value) (other : Key) :
    (items.foldl (keepBest key score) empty).get other = bestOf key score items other := by
  unfold bestOf
  induction items using List.reverseRecOn with
  | nil => rfl
  | append_singleton items item ih =>
    rw [List.foldl_concat, get_keepBest, ih, List.filter_append]
    by_cases here : key item = other
    next =>
      rw [if_pos here, List.filter_cons_of_pos (by simpa using here), List.filter_nil, List.argmax_concat]
      cases (items.filter fun item => key item = other).argmax score <;> rfl
    next => rw [if_neg here, List.filter_cons_of_neg (by simpa using here), List.filter_nil, List.append_nil]

theorem foldl_indexed (items : List Value) (held : Key) (value : Value)
    (found : (items.foldl (keepBest key score) empty).get held = some value) : key value = held := by
  rw [get_foldl, bestOf] at found
  have member := List.argmax_mem found
  exact of_decide_eq_true (List.mem_filter.mp member).2

end KeepBest

end OrderedMap
