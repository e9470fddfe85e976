import WordTally.Proofs.Tally.Counting
import WordTally.Routing

set_option autoImplicit false

namespace WordTally.Tally

theorem get?_raise (tally : Tally) (word other : String) (count : Nat) :
    (tally.raise word count).get? other =
      if other = word then some (max ((tally.get? word).getD 0) count) else tally.get? other :=
  get?_alter tally word other _

/-- Raising a tally by ascending entries raises each of their words once. -/
theorem get?_foldl_raise {entries : List (String × Nat)} (ascending : Entries.Ascending entries)
    (tally : Tally) (word : String) :
    (entries.foldl (fun tally entry => tally.raise entry.1 entry.2) tally).get? word =
      Option.merge max (tally.get? word) (Entries.find? word entries) := by
  induction entries generalizing tally with
  | nil => simp [Entries.find?]
  | cons head rest ih =>
    obtain ⟨key, count⟩ := head
    rw [List.foldl_cons, ih (List.Pairwise.of_cons ascending), get?_raise]
    by_cases here : word = key
    · subst here
      rw [Entries.find?_of_below ascending]
      cases h : tally.get? word <;> simp [Entries.find?]
    · have apart : key ≠ word := fun same => here same.symm
      simp only [here, apart, Entries.find?, ↓reduceIte]

theorem get?_merge (tally other : Tally) (word : String) :
    (tally.merge other).get? word = Option.merge max (tally.get? word) (other.get? word) :=
  get?_foldl_raise other.ascending tally word

theorem get?_foldl_merge (tallies : List Tally) (tally : Tally) (word : String) :
    (tallies.foldl merge tally).get? word =
      (tallies.map fun other => other.get? word).foldl (Option.merge max) (tally.get? word) := by
  induction tallies generalizing tally with
  | nil => rfl
  | cons head rest ih => rw [List.foldl_cons, ih, get?_merge, List.map_cons, List.foldl_cons]

/-- A word that only one of the merged tallies knows keeps the count it has there. -/
theorem get?_foldl_merge_of_alone {tallies : List Tally} {owner : Nat} {tally : Tally}
    {word : String} (owned : tallies[owner]? = some tally)
    (elsewhere : ∀ (index : Nat) (other : Tally), tallies[index]? = some other → index ≠ owner →
      other.get? word = none) :
    (tallies.foldl merge empty).get? word = tally.get? word := by
  have absent : ∀ (counts : List (Option Nat)) (start : Option Nat),
      (∀ count ∈ counts, count = none) → counts.foldl (Option.merge max) start = start := by
    intro counts start none
    induction counts generalizing start with
    | nil => rfl
    | cons head rest ih =>
      rw [List.foldl_cons, none head List.mem_cons_self, Option.merge_none_right]
      exact ih start fun count member => none count (List.mem_cons_of_mem _ member)
  obtain ⟨bound, rfl⟩ := List.getElem?_eq_some_iff.mp owned
  have parted : tallies = tallies.take owner ++ tallies[owner] :: tallies.drop (owner + 1) := by
    rw [← List.drop_eq_getElem_cons bound, List.take_append_drop]
  have before : ∀ count ∈ (tallies.take owner).map (fun other => other.get? word),
      count = none := by
    intro count member
    obtain ⟨other, inside, rfl⟩ := List.mem_map.mp member
    obtain ⟨index, found⟩ := List.mem_iff_getElem?.mp inside
    rw [List.getElem?_take] at found
    split at found
    · exact elsewhere index other found (by omega)
    · cases found
  have behind : ∀ count ∈ (tallies.drop (owner + 1)).map (fun other => other.get? word),
      count = none := by
    intro count member
    obtain ⟨other, inside, rfl⟩ := List.mem_map.mp member
    obtain ⟨index, found⟩ := List.mem_iff_getElem?.mp inside
    rw [List.getElem?_drop] at found
    exact elsewhere (owner + 1 + index) other found (by omega)
  rw [get?_foldl_merge]
  conv_lhs => rw [parted]
  rw [List.map_append, List.map_cons, List.foldl_append, List.foldl_cons, absent _ _ before,
    absent _ _ behind, get?_empty, Option.merge_none_left]

theorem ascending_filter {entries : List (String × Nat)} (ascending : Entries.Ascending entries)
    (keep : String × Nat → Bool) : Entries.Ascending (entries.filter keep) :=
  List.Pairwise.filter keep ascending

theorem find?_filter (keep : String → Bool) (entries : List (String × Nat)) (word : String) :
    Entries.find? word (entries.filter fun entry => keep entry.1) =
      if keep word = true then Entries.find? word entries else none := by
  induction entries with
  | nil => simp [Entries.find?]
  | cons head rest ih =>
    obtain ⟨key, count⟩ := head
    by_cases kept : keep key = true
    · by_cases here : key = word
      · subst here
        simp [kept, Entries.find?]
      · simp [kept, Entries.find?, here, ih]
    · by_cases here : key = word
      · subst here
        simp [kept, ih]
      · simp [kept, Entries.find?, here, ih]

/-- The share of a shard holds the words routed there, with their counts. -/
theorem get?_of_split {tally share : Tally} {shards shard : Nat}
    (found : (tally.split shards)[shard]? = some share) (word : String) :
    share.get? word = if shardOf word shards = shard then tally.get? word else none := by
  simp only [split, List.getElem?_map, Option.map_eq_some_iff] at found
  obtain ⟨index, inRange, rfl⟩ := found
  obtain ⟨_, rfl⟩ := List.getElem?_eq_some_iff.mp inRange
  rw [List.getElem_range, ofList,
    get?_foldl_raise (ascending_filter tally.ascending _), get?_empty, Option.merge_none_left,
    find?_filter (fun key => shardOf key shards == shard)]
  simp only [beq_iff_eq, get?]

theorem exists_share (tally : Tally) {shards shard : Nat} (inside : shard < max shards 1) :
    ∃ share, (tally.split shards)[shard]? = some share :=
  ⟨_, List.getElem?_eq_getElem (by rw [length_split]; exact inside)⟩

/-- A shard gives the updates that one counter alone gives for the words routed there. -/
theorem countAll_share {tally share : Tally} {shards shard : Nat}
    (found : (tally.split shards)[shard]? = some share) (words : List String) :
    (share.countAll (words.filter fun word => shardOf word shards == shard)).1 =
      (tally.countAll words).1.filter fun update => shardOf update.word shards == shard := by
  refine (filter_countAll (fun word => shardOf word shards == shard) tally share words ?_).symm
  intro word routed
  rw [get?_of_split found, if_pos (by simpa using routed)]

theorem get?_countAll_share {tally share : Tally} {shards shard : Nat}
    (found : (tally.split shards)[shard]? = some share) (words : List String) (word : String) :
    (share.countAll (words.filter fun word => shardOf word shards == shard)).2.get? word =
      if shardOf word shards = shard then (tally.countAll words).2.get? word else none := by
  rw [get?_countAll, get?_countAll, get?_of_split found]
  by_cases routed : shardOf word shards = shard
  · have counts : (words.filter fun word => shardOf word shards == shard).count word =
        words.count word := List.count_filter (by simpa using routed)
    have members : word ∈ (words.filter fun word => shardOf word shards == shard) ↔
        word ∈ words := by simp [List.mem_filter, routed]
    simp only [routed, ↓reduceIte, counts, members]
  · simp [routed]

/-- Merging what the shards have counted gives what one counter alone reaches. -/
theorem foldl_merge_shards {tally : Tally} (shards : Nat) {words : List String}
    {counted : List Tally} (lengths : counted.length = max shards 1)
    (each : ∀ (shard : Nat) (share : Tally), (tally.split shards)[shard]? = some share →
      counted[shard]? = some
        (share.countAll (words.filter fun word => shardOf word shards == shard)).2) :
    counted.foldl merge empty = (tally.countAll words).2 := by
  ext1 word
  have known : ∀ (shard : Nat) (other : Tally), counted[shard]? = some other →
      other.get? word =
        if shardOf word shards = shard then (tally.countAll words).2.get? word else none := by
    intro shard other found
    obtain ⟨bound, _⟩ := List.getElem?_eq_some_iff.mp found
    obtain ⟨share, shared⟩ := exists_share tally (lengths ▸ bound)
    have same := each shard share shared
    rw [found] at same
    cases same
    exact get?_countAll_share shared words word
  obtain ⟨share, shared⟩ := exists_share tally (shardOf_lt word shards)
  have owned := each _ _ shared
  rw [get?_foldl_merge_of_alone owned, known _ _ owned, if_pos rfl]
  intro index other found apart
  rw [known index other found, if_neg (fun same => apart same.symm)]

theorem merge_right_comm (tally first second : Tally) :
    (tally.merge first).merge second = (tally.merge second).merge first := by
  ext1 word
  simp only [get?_merge]
  exact RightCommutative.right_comm _ _ _

theorem foldl_merge_of_perm {tallies others : List Tally} (perm : tallies.Perm others)
    (tally : Tally) : tallies.foldl merge tally = others.foldl merge tally :=
  perm.foldl_eq' (fun first _ second _ before => merge_right_comm before first second) tally

/-- The share of each shard, counted on with the words routed there: the updates that this gives,
and what the shard has then. -/
def countShards (tally : Tally) (shards : Nat) (words : List String) :
    List (List Update × Tally) :=
  (tally.split shards).mapIdx fun shard share =>
    share.countAll (words.filter fun word => shardOf word shards == shard)

theorem getElem?_countShards (tally : Tally) (shards : Nat) (words : List String) (shard : Nat) :
    (tally.countShards shards words)[shard]? =
      (tally.split shards)[shard]?.map fun share =>
        share.countAll (words.filter fun word => shardOf word shards == shard) :=
  List.getElem?_mapIdx

/-- The shards together reach what one counter alone reaches, in whatever order they are merged. -/
theorem foldl_merge_countShards {tally : Tally} {shards : Nat} {words : List String}
    {counted : List Tally} (perm : counted.Perm ((tally.countShards shards words).map Prod.snd)) :
    counted.foldl merge empty = (tally.countAll words).2 := by
  rw [foldl_merge_of_perm perm]
  refine foldl_merge_shards shards ?_ fun shard share found => ?_
  · rw [List.length_map, countShards, List.length_mapIdx, length_split]
  · rw [List.getElem?_map, getElem?_countShards, found]
    rfl

/-- The updates of one word are the same on its shard as from one counter alone. -/
theorem updates_of_word_share {tally share : Tally} {word : String} {shards : Nat}
    (found : (tally.split shards)[shardOf word shards]? = some share) (words : List String) :
    ((share.countAll
        (words.filter fun other => shardOf other shards == shardOf word shards)).1.filter
          fun update => update.word == word) =
      (tally.countAll words).1.filter fun update => update.word == word := by
  rw [countAll_share found, List.filter_filter]
  refine List.filter_congr fun update _ => ?_
  by_cases same : update.word = word <;> simp [same]

theorem split_disjoint (tally : Tally) (shards : Nat) :
    (tally.split shards).Pairwise fun first second =>
      ∀ word, first.get? word = none ∨ second.get? word = none := by
  refine List.pairwise_iff_getElem.mpr fun one other oneIn otherIn before word => ?_
  by_cases routed : shardOf word shards = one
  · right
    rw [get?_of_split (List.getElem?_eq_getElem otherIn), if_neg (by omega)]
  · left
    rw [get?_of_split (List.getElem?_eq_getElem oneIn), if_neg routed]

/-- Sharding commutes with counting. A tally falls into one share for each shard, and the share of a
shard holds just the words routed there, with their counts. When every shard counts the words routed
to it, each word has the updates there that one counter alone gives it, and the shards merged in any
order are the tally that this counter reaches. -/
theorem split_count_merge (tally : Tally) (shards : Nat) (words : List String) :
    (tally.split shards).length = max shards 1 ∧
      (∀ word, shardOf word shards < max shards 1) ∧
      (∀ shard share, (tally.split shards)[shard]? = some share → ∀ word,
        share.get? word = if shardOf word shards = shard then tally.get? word else none) ∧
      (tally.split shards).Pairwise (fun first second =>
        ∀ word, first.get? word = none ∨ second.get? word = none) ∧
      (∀ word, ∃ updates counted,
        (tally.countShards shards words)[shardOf word shards]? = some (updates, counted) ∧
        updates.filter (fun update => update.word == word) =
          (tally.countAll words).1.filter fun update => update.word == word) ∧
      ∀ slices : List Tally, slices.Perm ((tally.countShards shards words).map Prod.snd) →
        slices.foldl merge empty = (tally.countAll words).2 := by
  refine ⟨length_split tally shards, fun word => shardOf_lt word shards,
    fun shard share found => get?_of_split found, split_disjoint tally shards, fun word => ?_,
    fun slices perm => foldl_merge_countShards perm⟩
  obtain ⟨share, found⟩ := exists_share tally (shardOf_lt word shards)
  have counted := getElem?_countShards tally shards words (shardOf word shards)
  rw [found] at counted
  exact ⟨_, _, counted, updates_of_word_share found words⟩

end WordTally.Tally
