import SqlStatement.Proofs.Parameters.Merging
import SqlStatement.Proofs.Phrase.Writing

/-! # Joining in groups

A join of fragments is known by what it shows: the texts that are not empty, with a separator
between two of them, and all names, each with the value that comes last. Fragments that are joined
in groups first, and then the groups, show the same, whichever texts are empty and wherever names
meet.
-/

namespace SqlStatement

/-- Groups of texts that are joined first, behind others. A group without text is an empty text
again, and is skipped as its members are. -/
theorem Phrase.joined_append_map_joined (separator : String) (before : List String)
    (groups : List (List String)) :
    joined separator (before ++ groups.map (joined separator)) =
      joined separator (before ++ groups.flatten) := by
  induction groups generalizing before with
  | nil => rfl
  | cons texts groups ih =>
    calc joined separator (before ++ joined separator texts :: groups.map (joined separator))
        = joined separator (before ++ (texts ++ groups.map (joined separator))) :=
          joined_append_joined_cons ..
      _ = joined separator (before ++ (texts ++ groups.flatten)) := by
          rw [← List.append_assoc, ih, List.append_assoc]

namespace Fragment

variable {separator : String} {fs : List Fragment} {f g : Fragment}

/-- What the fragments show when they are joined. -/
structure Joins (separator : String) (fs : List Fragment) (joined : Fragment) : Prop where
  text : joined.text = separator.intercalate ((fs.map text).filter (· ≠ ""))
  keys : joined.parameters.keys = (fs.flatMap (·.parameters.keys)).eraseDups
  get : ∀ key, joined.parameters.get? key = fs.reverse.findSome? (·.parameters.get? key)
  coherent : joined.parameters.Coherent

theorem Joins.alike (hf : Joins separator fs f) (hg : Joins separator fs g) : f.Alike g where
  text := hf.text.trans hg.text.symm
  parameters := hf.coherent.alike hg.coherent (hf.keys.trans hg.keys.symm) fun key =>
    (hf.get key).trans (hg.get key).symm

theorem joins_of_puts (h : ∀ f ∈ fs, f.parameters.Indexed)
    (ht : g.text = Phrase.joined separator (fs.map text)) (hi : g.parameters.Indexed)
    (he : g.parameters.toList = Parameters.puts [] (fs.flatMap (·.parameters.toList))) :
    Joins separator fs g where
  text := ht
  keys := by
    rw [Parameters.keys, he, Parameters.keys_puts, List.map_flatMap]
    rfl
  get key := by
    have hl := Parameters.lookup_reverse_flatMap (List.forall_mem_map.2 h) key
    rw [List.flatMap_map, ← List.map_reverse, List.findSome?_map] at hl
    rw [hi.get?_eq_lookup, he, Parameters.lookup_puts, hl]
    rfl
  coherent := hi.coherent

theorem toList_parameters_join (separator : String) (h : ∀ f ∈ fs, f.parameters.Indexed) :
    (join separator fs).parameters.Indexed ∧ (join separator fs).parameters.toList =
      Parameters.puts [] (fs.flatMap (·.parameters.toList)) := by
  rw [parameters_join, ← List.flatMap_map]
  exact Parameters.indexed_empty.foldl_extend (List.forall_mem_map.2 h)

theorem joins_join (separator : String) (h : ∀ f ∈ fs, f.parameters.Indexed) :
    Joins separator fs (join separator fs) := by
  obtain ⟨hi, he⟩ := toList_parameters_join separator h
  exact joins_of_puts h (text_join separator fs) hi he

theorem joins_groups (separator : String) {groups : List (List Fragment)}
    (h : ∀ f ∈ groups.flatten, f.parameters.Indexed) :
    Joins separator groups.flatten (join separator (groups.map (join separator))) := by
  have hg : ∀ group ∈ groups, (join separator group).parameters.Indexed ∧
      (join separator group).parameters.toList =
        Parameters.puts [] (group.flatMap (·.parameters.toList)) := fun group hm =>
    toList_parameters_join separator fun f hf => h f (List.mem_flatten.2 ⟨group, hm, hf⟩)
  obtain ⟨hi, he⟩ :=
    toList_parameters_join separator (List.forall_mem_map.2 fun group hm => (hg group hm).1)
  refine joins_of_puts h ?_ hi ?_
  · have ht : (groups.map (join separator)).map text =
        (groups.map (List.map text)).map (Phrase.joined separator) := by
      rw [List.map_map, List.map_map]
      exact List.map_congr_left fun group _ => text_join separator group
    rw [text_join, ht, List.map_flatten]
    exact Phrase.joined_append_map_joined separator [] _
  · rw [he, List.flatMap_map, List.flatMap_congr fun group hm => (hg group hm).2]
    exact Parameters.puts_flatMap_puts [] _ groups

/-- A join shows the texts that are not empty, separated, and the names of all its fragments with
their last values. To join the fragments in groups first, in whatever way the list is cut into
groups, comes to the same. The maps are any that operations make (`Parameters.Made.indexed`). -/
theorem join_regrouped (h : ∀ f ∈ fs, f.parameters.Indexed) :
    Joins separator fs (join separator fs) ∧
      ∀ groups : List (List Fragment), groups.flatten = fs →
        (join separator (groups.map (join separator))).Alike (join separator fs) := by
  refine ⟨joins_join separator h, ?_⟩
  rintro groups rfl
  exact (joins_groups separator h).alike (joins_join separator h)

/-- Two texts are empty, one of them with parameters, and all maps have a name in common. -/
theorem join_regrouped_of_overlap :
    let blank : Fragment := ⟨"", .ofList [("p2", .int 2), ("p1", .int 1)]⟩
    let first : Fragment := ⟨"a = :p1", .ofList [("p1", .int 11)]⟩
    let second : Fragment := ⟨"b = :p3", .ofList [("p3", .int 3), ("p1", .int 111)]⟩
    let joined := join ", " [blank, first, ∅, second]
    (∀ f ∈ [blank, first, ∅, second], f.parameters.Indexed) ∧ joined.text = "a = :p1, b = :p3" ∧
      joined.parameters.keys = ["p2", "p1", "p3"] ∧
      joined.parameters.get? "p1" = some (.int 111) ∧
      (join ", " [join ", " [blank], join ", " [first, ∅], join ", " [], second]).Alike joined := by
  intro blank first second joined
  have h : ∀ f ∈ [blank, first, ∅, second], f.parameters.Indexed := by
    simp only [List.forall_mem_cons]
    exact ⟨Parameters.indexed_ofList _, Parameters.indexed_ofList _, Parameters.indexed_empty,
      Parameters.indexed_ofList _, by simp⟩
  obtain ⟨hj, hg⟩ := @join_regrouped ", " _ h
  refine ⟨h, hj.text, ?_, ?_, ?_⟩
  · rw [hj.keys]
    decide
  · rw [hj.get]
    rfl
  · simpa using hg [[blank], [first, ∅], [], [second]] rfl

end Fragment

end SqlStatement
