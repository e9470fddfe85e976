import WordTally.Proofs.Url.Reading
import WordTally.Registry

set_option autoImplicit false

namespace WordTally.Url

def parts (url : Url) : List String :=
  (Text.pieces '/' url.path.text.toList).tail.map String.ofList

structure IsName (name : String) : Prop where
  some_char : name ≠ ""
  elsewhere : name ≠ "." ∧ name ≠ ".."
  unbroken : ∀ c ∈ name.toList, isLineBreakOrTab c = false

instance (name : String) : Decidable (IsName name) :=
  decidable_of_iff
    (name ≠ "" ∧ (name ≠ "." ∧ name ≠ "..") ∧ name.toList.any isLineBreakOrTab = false)
    ⟨fun ⟨some_char, elsewhere, whole⟩ => ⟨some_char, elsewhere, by simpa using whole⟩,
      fun isName => ⟨isName.some_char, isName.elsewhere, by simpa using isName.unbroken⟩⟩

/-- The parts of a base that names follow: all but one empty part at the end. Of two empty parts
none is left. Where no name follows, the last part stays in any case. -/
def stem (base names : List String) : List String :=
  if names = [] then popIfEmpty base
  else if base = ["", ""] then []
  else if base.getLast? = some "" then base.dropLast
  else base

variable {text : String} {base url : Url} {name : String} {names segments : List String}

theorem intercalate_nil_cons (separator : Char) (first : List Char) (rest : List (List Char)) :
    [separator].intercalate ([] :: first :: rest) =
      separator :: first ++ [separator].intercalate ([] :: rest) := by
  cases rest with
  | nil => simp
  | cons second others => simp [List.intercalate_cons_cons]

theorem toList_segmentsText_cons (segment : String) (rest : List String) :
    (segmentsText (segment :: rest)).toList =
      '/' :: segment.toList ++ (segmentsText rest).toList := by
  rw [segmentsText, List.map_cons, String.join_cons, String.toList_append, String.toList_append]
  rfl

theorem toList_segmentsText (segments : List String) :
    (segmentsText segments).toList = ['/'].intercalate ([] :: segments.map String.toList) := by
  induction segments with
  | nil => rfl
  | cons segment rest ih =>
    rw [toList_segmentsText_cons, ih, List.map_cons, intercalate_nil_cons]

theorem mem_segmentsText {c : Char} (stands : c ∈ (segmentsText segments).toList) :
    c = '/' ∨ ∃ segment ∈ segments, c ∈ segment.toList := by
  induction segments with
  | nil => cases stands
  | cons segment rest ih =>
    rw [toList_segmentsText_cons, List.cons_append, List.mem_cons, List.mem_append] at stands
    rcases stands with slash | here | later
    · exact .inl slash
    · exact .inr ⟨segment, List.mem_cons_self, here⟩
    · refine (ih later).imp_right ?_
      rintro ⟨other, inside, there⟩
      exact ⟨other, List.mem_cons_of_mem _ inside, there⟩

theorem pieces_segmentsText (undivided : ∀ segment ∈ segments, Undivided segment.toList) :
    Text.pieces '/' (segmentsText segments).toList = [] :: segments.map String.toList := by
  rw [toList_segmentsText]
  refine Text.pieces_intercalate (List.cons_ne_nil _ _) fun part member slash => ?_
  rcases List.mem_cons.mp member with rfl | later
  · cases slash
  · obtain ⟨segment, inside, rfl⟩ := List.mem_map.mp later
    exact undivided segment inside '/' slash (by decide)

theorem parts_of_segments (hierarchy : url.path = .segments segments)
    (undivided : ∀ segment ∈ segments, Undivided segment.toList) :
    url.parts = segments := by
  have cut : Text.pieces '/' url.path.text.toList = [] :: segments.map String.toList := by
    rw [hierarchy]
    exact pieces_segmentsText undivided
  rw [parts, cut]
  simp [Function.comp_def]

def written (name : String) : String :=
  String.ofList (percentEncode EncodeSet.specialSegment name.toList)

theorem percentDecode_written (name : String) :
    percentDecode (written name).toList = Text.utf8 name := by
  rw [written, String.toList_ofList]
  exact percentDecode_percentEncode (by decide) name

theorem undivided_written (name : String) : Undivided (written name).toList := by
  have covered : delimiters ⊆ EncodeSet.specialSegment := by decide
  rw [written, String.toList_ofList]
  exact undivided_percentEncode fun c _ ends => covered ends

theorem written_injective : Function.Injective written := by
  intro name other same
  apply Text.utf8_injective
  rw [← percentDecode_written, ← percentDecode_written, same]

theorem IsName.written_ne_empty (isName : IsName name) : written name ≠ "" := by
  intro same
  have nothing : (written name).toList = [] := by rw [same]; rfl
  rw [written, String.toList_ofList] at nothing
  exact percentEncode_ne_nil (fun empty => isName.some_char (String.toList_eq_nil_iff.mp empty))
    nothing

/-- The segments that a name follows. A lone slash is none. -/
def room (segments : List String) : List String := if segments = [""] then [] else segments

theorem room_of_ne (some_char : segments ≠ [""]) : room segments = segments := if_neg some_char

theorem push_of_isName (isName : IsName name) (segments : List String) :
    push true segments name = room segments ++ [written name] := by
  have kept : (name.toList.filter fun c => !isLineBreakOrTab c) = name.toList :=
    List.filter_eq_self.mpr fun c stands => by rw [isName.unbroken c stands]; rfl
  have here : name.toList ≠ ['.'] := fun same => isName.elsewhere.1 (String.toList_inj.mp same)
  have above : name.toList ≠ ['.', '.'] := fun same =>
    isName.elsewhere.2 (String.toList_inj.mp same)
  rw [push, if_neg (not_or.mpr isName.elsewhere)]
  dsimp only
  rw [kept, if_neg above, if_neg here, if_pos rfl]
  rfl

theorem append_written_ne (isName : IsName name) (segments : List String) :
    segments ++ [written name] ≠ [""] := by
  intro same
  have last := (List.append_inj' (same.trans (List.nil_append _).symm) rfl).2
  exact isName.written_ne_empty (List.singleton_injective last)

theorem foldl_push_of_ne (each : ∀ name ∈ names, IsName name) (some_char : segments ≠ [""]) :
    names.foldl (push true) segments = segments ++ names.map written := by
  induction names generalizing segments with
  | nil => simp
  | cons name rest ih =>
    obtain ⟨isName, later⟩ := List.forall_mem_cons.mp each
    rw [List.foldl_cons, push_of_isName isName, room_of_ne some_char,
      ih later (append_written_ne isName segments), List.map_cons, List.append_assoc]
    rfl

theorem foldl_push (each : ∀ name ∈ names, IsName name) (some_name : names ≠ []) :
    names.foldl (push true) segments = room segments ++ names.map written := by
  obtain ⟨name, rest, rfl⟩ := List.exists_cons_of_ne_nil some_name
  obtain ⟨isName, later⟩ := List.forall_mem_cons.mp each
  rw [List.foldl_cons, push_of_isName isName,
    foldl_push_of_ne later (append_written_ne isName _), List.map_cons, List.append_assoc]
  rfl

theorem room_popIfEmpty (segments : List String) (some_name : names ≠ []) :
    room (popIfEmpty segments) = stem segments names := by
  rw [stem, if_neg some_name]
  by_cases ended : segments.getLast? = some ""
  · obtain ⟨front, rfl⟩ := List.getLast?_eq_some_iff.mp ended
    cases front with
    | nil => simp [popIfEmpty, room]
    | cons first others =>
      have popped : popIfEmpty (first :: others ++ [""]) = first :: others := by
        rw [popIfEmpty, if_pos ⟨by simp, ended⟩, List.dropLast_concat]
      rw [popped, if_pos ended, List.dropLast_concat, room]
      have lone_iff : first :: others ++ [""] = [""] ++ [""] ↔ first :: others = [""] :=
        List.append_left_inj [""]
      rw [List.singleton_append] at lone_iff
      simp only [lone_iff]
  · have whole : popIfEmpty segments = segments := if_neg fun both => ended both.2
    have apart : segments ≠ ["", ""] := by
      rintro rfl
      exact ended rfl
    rw [whole, if_neg apart, if_neg ended, room_of_ne]
    rintro rfl
    exact ended rfl

theorem popIfEmpty_subset (segments : List String) : popIfEmpty segments ⊆ segments := by
  unfold popIfEmpty
  split
  · exact List.dropLast_subset segments
  · exact List.Subset.refl segments

theorem stem_subset (segments names : List String) : stem segments names ⊆ segments := by
  unfold stem
  split
  · exact popIfEmpty_subset segments
  · split
    · exact List.nil_subset segments
    · split
      · exact List.dropLast_subset segments
      · exact List.Subset.refl segments

/-- An endpoint of a base keeps all of the base but its path. -/
theorem join_keeps (base : Url) (names : List String) :
    (base.join names).scheme = base.scheme ∧ (base.join names).authority = base.authority ∧
      (base.join names).query = base.query ∧ (base.join names).fragment = base.fragment := by
  unfold join
  split <;> exact ⟨rfl, rfl, rfl, rfl⟩

theorem path_join (hierarchy : base.path = .segments segments) (http : base.IsHttp)
    (each : ∀ name ∈ names, IsName name) :
    (base.join names).path = .segments (stem segments names ++ names.map written) := by
  have special : isSpecialScheme base.scheme = true := by
    rcases http with scheme | scheme <;> rw [scheme] <;> decide
  rw [join, hierarchy]
  dsimp only
  rw [special]
  by_cases some_name : names = []
  · subst some_name
    simp [stem]
  · rw [foldl_push each some_name, room_popIfEmpty _ some_name]

theorem undivided_of_mem_join (undivided : ∀ segment ∈ segments, Undivided segment.toList) :
    ∀ segment ∈ stem segments names ++ names.map written, Undivided segment.toList := by
  intro segment member
  rcases List.mem_append.mp member with kept | added
  · exact undivided segment (stem_subset segments names kept)
  · obtain ⟨name, -, rfl⟩ := List.mem_map.mp added
    exact undivided_written name

theorem stem_nil_ne (each : ∀ name ∈ names, IsName name) (some_name : names ≠ []) :
    stem segments [] ≠ stem segments names ++ names.map written := by
  intro same
  rw [← room_popIfEmpty segments some_name, stem, if_pos rfl] at same
  by_cases lone : popIfEmpty segments = [""]
  · rw [lone, room, if_pos rfl, List.nil_append] at same
    obtain ⟨name, inside, empty⟩ := List.mem_map.mp (same ▸ List.mem_cons_self)
    exact (each name inside).written_ne_empty empty
  · rw [room_of_ne lone, List.self_eq_append_right, List.map_eq_nil_iff] at same
    exact some_name same

/-- What is appended can be told from the segments. -/
theorem stem_append_inj {others : List String} (each : ∀ name ∈ names, IsName name)
    (eachOther : ∀ name ∈ others, IsName name)
    (same : stem segments others ++ others.map written = stem segments names ++ names.map written) :
    others = names := by
  by_cases no_other : others = []
  · subst no_other
    rw [List.map_nil, List.append_nil] at same
    by_contra some_name
    exact stem_nil_ne each (Ne.symm some_name) same
  · by_cases no_name : names = []
    · subst no_name
      rw [List.map_nil, List.append_nil] at same
      exact absurd same.symm (stem_nil_ne eachOther no_other)
    · rw [← room_popIfEmpty segments no_other, ← room_popIfEmpty segments no_name] at same
      exact written_injective.list_map (List.append_cancel_left same)

/-- Each name stays inside a segment of its own.

Below a URL of the web, an endpoint keeps everything of its base but the path. The path has the
parts of the base, without one empty part at the end, and then one part for each name, which
decodes to that name; only if the base has but two empty parts, neither of them is left, and only
if there is no name, a single empty one is. The path ends where the last part does, and different
names have different paths. -/
theorem names_keep_apart (read : Url.parse text = .ok base) (http : base.IsHttp)
    (each : ∀ name ∈ names, IsName name) :
    Registry.endpoint ⟨base⟩ names = .ok (base.join names) ∧
      (base.join names).scheme = base.scheme ∧
      (base.join names).authority = base.authority ∧
      (base.join names).query = base.query ∧
      (∃ added, (base.join names).parts = stem base.parts names ++ added ∧
        List.Forall₂ (fun name part => percentDecode part.toList = Text.utf8 name) names added) ∧
      (∀ c ∈ (base.join names).path.text.toList, c ∉ ['?', '#', '\\']) ∧
      ∀ others, (∀ name ∈ others, IsName name) →
        (base.join others).path.text = (base.join names).path.text → others = names := by
  have complete := complete_of_parse read http
  obtain ⟨segments, hierarchy, -, undivided⟩ := complete.path
  obtain ⟨scheme, authority, query, -⟩ := join_keeps base names
  have partsOf {names : List String} (each : ∀ name ∈ names, IsName name) :
      (base.join names).parts = stem segments names ++ names.map written :=
    parts_of_segments (path_join hierarchy http each) (undivided_of_mem_join undivided)
  refine ⟨?_, scheme, authority, query, ⟨names.map written, ?_, ?_⟩, ?_, ?_⟩
  · rw [Registry.endpoint, if_pos complete.canBeBase]
  · rw [partsOf each, parts_of_segments hierarchy undivided]
  · rw [List.forall₂_map_right_iff, List.forall₂_same]
    exact fun name _ => percentDecode_written name
  · have ends : ['?', '#', '\\'] ⊆ delimiters := by decide
    intro c stands delimits
    rw [path_join hierarchy http each] at stands
    rcases mem_segmentsText stands with rfl | ⟨segment, member, there⟩
    · exact absurd delimits (by decide)
    · exact undivided_of_mem_join undivided segment member c there (ends delimits)
  · intro others eachOther same
    have sameParts : (base.join others).parts = (base.join names).parts := by
      rw [parts, parts, same]
    rw [partsOf eachOther, partsOf each] at sameParts
    exact stem_append_inj each eachOther sameParts

def slashed : Url :=
  ⟨"http", some ⟨"", none, .domain "proxy", some 8082⟩, .segments ["v1", ""], some "q", some "f"⟩

/-- Whatever has a meaning in URLs is written without it, and a slash inside a name does not make
two names of it. -/
theorem slashed_keeps_names :
    Url.parse "http://proxy:8082/v1/?q#f" = .ok slashed ∧
      (slashed.join ["topics", "../a?b#c%2F\\é"]).target =
        "/v1/topics/..%2Fa%3Fb%23c%252F%5C%C3%A9?q" ∧
      (slashed.join ["topics", "a/b"]).path.text ≠ (slashed.join ["topics", "a", "b"]).path.text := by
  have read : Url.parse "http://proxy:8082/v1/?q#f" = .ok slashed := by decide +kernel
  have each : ∀ name ∈ ["topics", "a", "b"], IsName name := by decide +kernel
  obtain ⟨-, -, -, -, -, -, apart⟩ := names_keep_apart read (.inl rfl) each
  refine ⟨read, by decide +kernel, fun same => ?_⟩
  exact absurd (apart ["topics", "a/b"] (by decide +kernel) same) (by decide)

/-- It does not hold of every base that its parts are kept but for one empty part at the end: of a
path of two slashes both empty parts are gone. -/
theorem two_slashes_lost :
    ¬ ∀ (text : String) (base : Url) (names : List String), Url.parse text = .ok base →
      base.IsHttp → (∀ name ∈ names, IsName name) →
      ∃ added, (base.join names).parts =
          (if base.parts.getLast? = some "" then base.parts.dropLast else base.parts) ++ added ∧
        List.Forall₂ (fun name part => percentDecode part.toList = Text.utf8 name) names added := by
  intro claim
  let base : Url := ⟨"http", some ⟨"", none, .domain "h", none⟩, .segments ["", ""], none, none⟩
  have read : Url.parse "http://h//" = .ok base := by decide +kernel
  obtain ⟨added, joined, -⟩ := claim _ base ["topics"] read (.inl rfl) (by decide +kernel)
  have before : base.parts = ["", ""] := by decide +kernel
  have after : (base.join ["topics"]).parts = ["topics"] := by decide +kernel
  rw [before, after] at joined
  exact absurd (List.cons.inj joined).1 (by decide)

end WordTally.Url
