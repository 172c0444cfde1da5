/-
The name and the value of a cookie that was read.

They come from the first segment, unless a later one is keyed `Name` or `Value`
with exactly that spelling: an attribute goes into the table under its key as it
is spelled, and those two keys are taken. Any other spelling of them is an
attribute of its own, which is never found, since `Name` and `Value` come first.
So the first segment has the last word exactly when no later one is given it
(`Unopposed`).
-/
import MessageHead.Proofs.CookieRoundTrip

namespace MessageHead.Cookie

/-- What the last segment keyed `key`, spelled so, has for a value; no such segment
is not the same as one without a value. -/
def lastUnder (key : Text) (gs : List Text) : Option (Option Text) :=
  OrderedTable.get? (· == key) (gs.map readSegment).reverse

/-- The later segments keyed `Name` or `Value` say what the first segment says. -/
structure Unopposed (first : Text) (more : List Text) : Prop where
  name : ∀ v, lastUnder nameKey more = some v → v = some (readSegment first).1
  value : ∀ v, lastUnder valueKey more = some v → v = (readSegment first).2

theorem getD_eq_iff {α : Type} {o : Option α} {a : α} : o.getD a = a ↔ ∀ b, o = some b → b = a := by
  cases o <;> simp

variable {first : Text} {more : List Text} {key : Text}

theorem lastUnder_eq_none (h : ∀ g ∈ more, (readSegment g).1 ≠ key) : lastUnder key more = none := by
  unfold lastUnder OrderedTable.get? OrderedTable.first?
  rw [Option.map_eq_none_iff, List.find?_eq_none]
  intro e he
  obtain ⟨g, hg, rfl⟩ := List.mem_map.1 (List.mem_reverse.1 he)
  simpa using h g hg

theorem unopposed_of_keys (h : ∀ g ∈ more, (readSegment g).1 ≠ nameKey ∧ (readSegment g).1 ≠ valueKey) :
    Unopposed first more where
  name v hv := by
    rw [lastUnder_eq_none fun g hg => (h g hg).1] at hv
    cases hv
  value v hv := by
    rw [lastUnder_eq_none fun g hg => (h g hg).2] at hv
    cases hv

theorem eq_getD_lastUnder {v w : Option Text}
    (hv : OrderedTable.get? (· == key) (OrderedTable.putAll id (opening first) (more.map readSegment)) = some v)
    (hw : OrderedTable.get? (· == key) (opening first) = some w) : v = (lastUnder key more).getD w := by
  have hput : OrderedTable.get? (· == key) (OrderedTable.putAll id (opening first) (more.map readSegment)) =
      (lastUnder key more).or (OrderedTable.get? (· == key) (opening first)) :=
    OrderedTable.get?_putAll id _ _ key
  rw [hv, hw] at hput
  cases hl : lastUnder key more with
  | none =>
    rw [hl, Option.none_or] at hput
    exact Option.some.inj hput
  | some u =>
    rw [hl, Option.some_or] at hput
    exact Option.some.inj hput

theorem reserved_of_parse {s : Text} {c : Cookie} (h : parse s = .ok c) :
    ∃ first more, segments s = .ok (first :: more) ∧
      c.name? = (lastUnder nameKey more).getD (some (readSegment first).1) ∧
      c.value? = (lastUnder valueKey more).getD (readSegment first).2 := by
  obtain ⟨name, value, others, hr⟩ := readable_of_parse h
  obtain ⟨gs, first, more, hs, hg, -, rfl⟩ := parse_eq_ok_iff.1 h
  have hattrs : OrderedTable.putAll id (opening first) (more.map readSegment) =
    (nameKey, name) :: (valueKey, value) :: others := hr.attributes_eq
  refine ⟨first, more, ?_, ?_, ?_⟩
  · unfold segments
    rw [hs, ← hg]
    rfl
  · rw [hr.name?_eq]
    refine eq_getD_lastUnder ?_ rfl
    rw [hattrs]
    rfl
  · rw [hr.value?_eq]
    refine eq_getD_lastUnder ?_ rfl
    rw [hattrs]
    rfl

/-- **Name and value of a cookie that was read** are those of its first segment, or
of the last one that is keyed `Name` or `Value` with exactly that spelling. So the
first segment decides exactly when none of those says otherwise. -/
theorem parse_first_segment {s : Text} {c : Cookie} (h : parse s = .ok c) :
    ∃ first more, segments s = .ok (first :: more) ∧
      c.name? = (lastUnder nameKey more).getD (some (readSegment first).1) ∧
      c.value? = (lastUnder valueKey more).getD (readSegment first).2 ∧
      (c.name? = some (readSegment first).1 ∧ c.value? = (readSegment first).2 ↔ Unopposed first more) := by
  obtain ⟨first, more, hs, hn, hv⟩ := reserved_of_parse h
  refine ⟨first, more, hs, hn, hv, ?_⟩
  rw [hn, hv, getD_eq_iff, getD_eq_iff]
  exact ⟨fun ho => ⟨ho.1, ho.2⟩, fun ho => ⟨ho.name, ho.value⟩⟩

/-- Later segments keyed `name` and `VALUE` are attributes of their own. -/
theorem parse_first_segment_other_case :
    parse [' ', 'a', '=', '"', 'x', '"', ';', ';', 'n', 'a', 'm', 'e', '=', 'b', ';', 'V', 'A', 'L', 'U', 'E'] =
      .ok ⟨[(nameKey, some ['a']), (valueKey, some ['x']), (['n', 'a', 'm', 'e'], some ['b']),
        (['V', 'A', 'L', 'U', 'E'], none)]⟩ ∧
    name? ⟨[(nameKey, some ['a']), (valueKey, some ['x']), (['n', 'a', 'm', 'e'], some ['b']),
      (['V', 'A', 'L', 'U', 'E'], none)]⟩ = some ['a'] ∧
    value? ⟨[(nameKey, some ['a']), (valueKey, some ['x']), (['n', 'a', 'm', 'e'], some ['b']),
      (['V', 'A', 'L', 'U', 'E'], none)]⟩ = some ['x'] := by
  have h : parse [' ', 'a', '=', '"', 'x', '"', ';', ';', 'n', 'a', 'm', 'e', '=', 'b', ';', 'V', 'A', 'L', 'U',
      'E'] = .ok ⟨[(nameKey, some ['a']), (valueKey, some ['x']), (['n', 'a', 'm', 'e'], some ['b']),
        (['V', 'A', 'L', 'U', 'E'], none)]⟩ := by decide +kernel
  have hsegments : segments [' ', 'a', '=', '"', 'x', '"', ';', ';', 'n', 'a', 'm', 'e', '=', 'b', ';', 'V', 'A',
      'L', 'U', 'E'] =
      .ok [['a', '=', '"', 'x', '"'], ['n', 'a', 'm', 'e', '=', 'b'], ['V', 'A', 'L', 'U', 'E']] := by
    decide +kernel
  obtain ⟨first, more, hs, -, -, hiff⟩ := parse_first_segment h
  rw [hsegments] at hs
  cases hs
  exact ⟨h, hiff.2 (unopposed_of_keys (by decide))⟩

/-- A later segment keyed `Name` renames the cookie; without a value it takes the
name away. -/
theorem parse_first_segment_renamed :
    (segments ['a', '=', '1', ';', 'N', 'a', 'm', 'e', '=', 'b'] =
        .ok [['a', '=', '1'], ['N', 'a', 'm', 'e', '=', 'b']] ∧
      readSegment ['a', '=', '1'] = (['a'], some ['1']) ∧
      ∃ c, parse ['a', '=', '1', ';', 'N', 'a', 'm', 'e', '=', 'b'] = .ok c ∧ c.name? = some ['b']) ∧
    ∃ c, parse ['a', '=', '1', ';', 'N', 'a', 'm', 'e'] = .ok c ∧ c.name? = none := by
  refine ⟨⟨?_, ?_, ⟨[(nameKey, some ['b']), (valueKey, some ['1'])]⟩, ?_, ?_⟩,
    ⟨[(nameKey, none), (valueKey, some ['1'])]⟩, ?_, ?_⟩ <;> decide +kernel

end MessageHead.Cookie
