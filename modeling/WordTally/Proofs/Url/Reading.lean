import WordTally.Proofs.Outcomes
import WordTally.Proofs.Text.Cutting
import WordTally.Proofs.Url.Escaping
import WordTally.Url.Parser

set_option autoImplicit false

namespace WordTally.Url

def IsHttp (url : Url) : Prop := url.scheme = "http" ∨ url.scheme = "https"

/-- The characters that end a segment of a path, or the path itself. -/
def delimiters : List Char := ['/', '\\', '?', '#']

def Undivided (segment : List Char) : Prop := ∀ c ∈ segment, c ∉ delimiters

variable {text tail front : List Char} {scheme : String} {url : Url} {host : Host}
  {authority : Authority}

/-- Encoding leaves no delimiter but those that were neither in the set nor cut at before. -/
theorem undivided_percentEncode {set : EncodeSet} {name : List Char}
    (covered : ∀ c ∈ name, c ∈ delimiters → c ∈ set) : Undivided (percentEncode set name) := by
  have apart : (escapes.all fun c => !delimiters.contains c) = true := by decide
  intro c stands ends
  rcases mem_percentEncode stands with escape | ⟨inside, outside⟩
  · simpa [ends] using List.all_eq_true.mp apart c escape
  · exact outside (covered c inside ends)

theorem exists_walk_cons (before : List String) (part : List Char) (rest : List (List Char)) :
    ∃ next, walk before (part :: rest) = walk next rest ∧ (rest = [] → next ≠ []) ∧
      ∀ name ∈ next, name ∈ before ∨ name.toList = [] ∨
        name.toList = percentEncode EncodeSet.path part := by
  have last : ∀ name ∈ (if rest.isEmpty then [""] else []), name.toList = [] := by
    intro name member
    split at member
    · rw [List.mem_singleton.mp member]
      rfl
    · cases member
  have ended : rest = [] → (if rest.isEmpty then [""] else []) ≠ [] := by
    rintro rfl
    simp
  rw [walk]
  split
  · refine ⟨_, rfl, fun final => List.append_ne_nil_of_right_ne_nil _ (ended final), ?_⟩
    intro name member
    rcases List.mem_append.mp member with kept | added
    · exact .inl (List.dropLast_subset _ kept)
    · exact .inr (.inl (last name added))
  · split
    · refine ⟨_, rfl, fun final => List.append_ne_nil_of_right_ne_nil _ (ended final), ?_⟩
      intro name member
      rcases List.mem_append.mp member with kept | added
      · exact .inl kept
      · exact .inr (.inl (last name added))
    · refine ⟨_, rfl, fun _ => List.append_ne_nil_of_right_ne_nil _ (List.cons_ne_nil _ _), ?_⟩
      intro name member
      rcases List.mem_append.mp member with kept | added
      · exact .inl kept
      · rw [List.mem_singleton.mp added, String.toList_ofList]
        exact .inr (.inr rfl)

theorem walk_ne_nil {before : List String} {parts : List (List Char)}
    (some_name : parts = [] → before ≠ []) : walk before parts ≠ [] := by
  induction parts generalizing before with
  | nil => exact some_name rfl
  | cons part rest ih =>
    obtain ⟨next, same, ended, -⟩ := exists_walk_cons before part rest
    rw [same]
    exact ih ended

theorem undivided_of_mem_walk {before : List String} {parts : List (List Char)}
    (kept : ∀ name ∈ before, Undivided name.toList)
    (cut : ∀ part ∈ parts, ∀ c ∈ part, pathSeparator true c = false) :
    ∀ name ∈ walk before parts, Undivided name.toList := by
  induction parts generalizing before with
  | nil => exact kept
  | cons part rest ih =>
    obtain ⟨next, same, -, origin⟩ := exists_walk_cons before part rest
    rw [same]
    refine ih (fun name member => ?_) fun part later => cut part (List.mem_cons_of_mem _ later)
    rcases origin name member with earlier | empty | encoded
    · exact kept name earlier
    · rw [empty]
      exact fun c stands => absurd stands (List.not_mem_nil)
    · have listed : delimiters.filter (fun c => !pathSeparator true c) ⊆ EncodeSet.path := by decide
      rw [encoded]
      exact undivided_percentEncode fun c stands ends =>
        listed (List.mem_filter.mpr ⟨ends, by rw [cut part List.mem_cons_self c stands]; rfl⟩)

theorem readPath_ne_nil (text : List Char) : readPath true text ≠ [] := by
  unfold readPath
  split
  · exact List.cons_ne_nil _ _
  · exact walk_ne_nil fun none_left => absurd none_left (List.splitOnP_ne_nil _ _)

theorem undivided_of_mem_readPath {name : String} (member : name ∈ readPath true text) :
    Undivided name.toList := by
  unfold readPath at member
  split at member
  · rw [if_pos rfl, List.mem_singleton] at member
    subst member
    exact fun c stands => absurd stands (List.not_mem_nil)
  · refine undivided_of_mem_walk (fun _ nothing => absurd nothing List.not_mem_nil) ?_ name member
    exact fun part inside c stands => Text.of_mem_splitOnP inside stands

theorem Host.read_ne_empty (read : Host.read text = .ok host) : host ≠ .domain "" := by
  unfold Host.read bracketed at read
  dsimp only at read
  split at read
  · split at read
    · obtain ⟨pieces, -, rfl⟩ := map_eq_ok_iff.mp read
      nofun
    · cases read
  · split at read
    · cases read
    · split at read
      · cases read
      · rename_i some_char
        split at read
        · obtain ⟨address, -, rfl⟩ := map_eq_ok_iff.mp read
          nofun
        · cases read
          intro same
          refine some_char (List.isEmpty_iff.mpr ?_)
          rw [← String.toList_ofList (l := List.map _ _), Host.domain.inj same]
          rfl

theorem host_ne_of_readAuthority (special : isSpecialScheme scheme = true)
    (read : readAuthority scheme text tail = .ok authority) : authority.host ≠ .domain "" := by
  unfold readAuthority at read
  split at read
  rename_i credentials place parted
  dsimp only at read
  split at read
  · cases read
  · split at read
    · rw [if_pos (.inl special)] at read
      cases read
    · obtain ⟨host, found, read⟩ := bind_eq_ok_iff.mp read
      obtain ⟨port, -, read⟩ := bind_eq_ok_iff.mp read
      cases read
      exact Host.read_ne_empty found

theorem exists_of_readWithAuthority (read : readWithAuthority scheme text = .ok url) :
    url.scheme = scheme ∧ ∃ authority path, url.authority = some authority ∧
      url.path = .segments (readPath (isSpecialScheme scheme) path) ∧
      (isSpecialScheme scheme = true → authority.host ≠ .domain "") := by
  unfold readWithAuthority at read
  dsimp only at read
  obtain ⟨authority, found, read⟩ := bind_eq_ok_iff.mp read
  cases read
  exact ⟨rfl, authority, _, rfl, rfl, fun special => host_ne_of_readAuthority special found⟩

theorem scheme_of_readFile (read : readFile scheme text = .ok url) : url.scheme = scheme := by
  unfold readFile at read
  dsimp only at read
  split at read
  · split at read
    · split at read
      · cases read
        rfl
      · obtain ⟨host, -, read⟩ := bind_eq_ok_iff.mp read
        cases read
        rfl
    · cases read
      rfl
  · cases read
    rfl

theorem scheme_of_readWithoutAuthority (scheme : String) (text : List Char) :
    (readWithoutAuthority scheme text).scheme = scheme := by
  unfold readWithoutAuthority
  split
  split <;> rfl

/-- What a URL of the web has. -/
structure Complete (url : Url) : Prop where
  host : ∃ authority, url.authority = some authority ∧ authority.host ≠ .domain ""
  path : ∃ segments, url.path = .segments segments ∧ segments ≠ [] ∧
    ∀ segment ∈ segments, Undivided segment.toList

theorem Complete.hasHost (complete : url.Complete) : url.hasHost = true := by
  obtain ⟨authority, held, some_host⟩ := complete.host
  unfold Url.hasHost
  rw [held]
  exact bne_iff_ne.mpr some_host

theorem Complete.canBeBase (complete : url.Complete) : url.canBeBase = true := by
  obtain ⟨segments, hierarchy, -⟩ := complete.path
  unfold Url.canBeBase
  rw [hierarchy]

/-- A URL of one of the schemes that need a host is read with an authority. -/
theorem exists_of_parse {text : String} (read : Url.parse text = .ok url)
    (hosted : isWebScheme url.scheme = true) :
    ∃ rest, readWithAuthority url.scheme rest = .ok url := by
  unfold Url.parse at read
  split at read
  · cases read
  · rename_i scheme rest found
    split at read
    · have same := (exists_of_readWithAuthority read).1
      exact ⟨_, same ▸ read⟩
    · rename_i elsewhere
      exfalso
      have same : url.scheme = scheme := by
        split at read
        · rename_i file
          subst file
          exact scheme_of_readFile read
        · split at read
          · exact (exists_of_readWithAuthority read).1
          · cases read
            exact scheme_of_readWithoutAuthority scheme rest
      exact elsewhere (same ▸ hosted)

theorem complete_of_parse {text : String} (read : Url.parse text = .ok url) (http : url.IsHttp) :
    url.Complete := by
  have hosted : isWebScheme url.scheme = true := by
    rcases http with scheme | scheme <;> rw [scheme] <;> decide
  have special : isSpecialScheme url.scheme = true := by
    rw [isSpecialScheme, hosted, Bool.true_or]
  obtain ⟨rest, parted⟩ := exists_of_parse read hosted
  obtain ⟨-, authority, path, held, hierarchy, some_host⟩ := exists_of_readWithAuthority parted
  rw [special] at hierarchy
  exact ⟨⟨authority, held, some_host special⟩,
    ⟨_, hierarchy, readPath_ne_nil path, fun _ => undivided_of_mem_readPath⟩⟩

end WordTally.Url
