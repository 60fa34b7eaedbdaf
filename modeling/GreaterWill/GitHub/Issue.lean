import GreaterWill.Lib.Digits

/-!
# Issue references

`parse_github_issue_url` of `github/mod.rs`: a plan argument may be the URL of a GitHub issue, or
`owner/repo#number`. The reader of the short form splits at the first slash and asks then that the
owner has none, which it cannot have; the repository may, and a path such as `dir/sub/name#2` is
taken for an issue.
-/

namespace GreaterWill

open Text

/-- Parsed GitHub issue URL components. -/
structure GitHubIssue where
  owner : String
  repo : String
  number : UInt64
  deriving DecidableEq

/-- Canonical `owner/repo#number` format. -/
def GitHubIssue.shortRef (i : GitHubIssue) : String :=
  i.owner ++ "/" ++ i.repo ++ "#" ++ i.number.toNat.repr

/-- What stands behind the host of a GitHub URL. -/
def githubPath (trimmed : List Char) : Option (List Char) :=
  (stripPrefix "https://github.com/".toList trimmed).or
    (stripPrefix "http://github.com/".toList trimmed)

/-- The URL format: `owner/repo/issues/123` behind the host. -/
def parseIssuePath (rest : List Char) : Option GitHubIssue :=
  match rest.splitOn '/' with
  | owner :: repo :: issues :: number :: _ =>
    if issues = "issues".toList then
      (parseU64 number).bind fun number =>
        if !owner.isEmpty && !repo.isEmpty then
          some { owner := String.ofList owner, repo := String.ofList repo, number }
        else none
    else none
  | _ => none

/-- The shorthand format: `owner/repo#123`. -/
def parseShorthand (trimmed : List Char) : Option GitHubIssue :=
  (splitOnce '#' trimmed).bind fun (repoPart, numStr) =>
    (splitOnce '/' repoPart).bind fun (owner, repo) =>
      (parseU64 numStr).bind fun number =>
        if !owner.isEmpty && !repo.isEmpty && !owner.contains '/' then
          some { owner := String.ofList owner, repo := String.ofList repo, number }
        else none

/-- Parse a GitHub issue URL or shorthand into its components. -/
def parseGithubIssueUrl (input : String) : Option GitHubIssue :=
  let trimmed := trim input.toList
  match githubPath trimmed with
  | some rest => parseIssuePath rest
  | none => parseShorthand trimmed

/-- Resolve a list of plan arguments, converting any GitHub issue URLs into generated plan file
paths. Non-URL arguments are passed through unchanged. -/
def resolveGithubUrls {IssueData : Type} (fetchIssue : GitHubIssue → Except String IssueData)
    (generatePlan : GitHubIssue → IssueData → Except String String) :
    List String → Except String (List String)
  | [] => .ok []
  | plan :: plans =>
    match parseGithubIssueUrl plan with
    | some issue =>
      match fetchIssue issue with
      | .error _ => .error s!"Failed to fetch {issue.shortRef}"
      | .ok data =>
        match generatePlan issue data with
        | .error e => .error e
        | .ok path => (resolveGithubUrls fetchIssue generatePlan plans).map (path :: ·)
    | none => (resolveGithubUrls fetchIssue generatePlan plans).map (plan :: ·)

/-! ## The two formats -/

/-- `owner/repo/issues/number`, and maybe more behind another slash. -/
structure IsIssuePath (path owner repo num : List Char) : Prop where
  path : ∃ more, path = owner ++ '/' :: (repo ++ '/' :: ("issues".toList ++ '/' :: (num ++ more))) ∧
    (more = [] ∨ ∃ t, more = '/' :: t)
  owner : '/' ∉ owner
  repo : '/' ∉ repo
  num : '/' ∉ num

/-- `owner/repo#number`, where the repository may have slashes. -/
structure IsShorthand (text owner repo num : List Char) : Prop where
  text : text = owner ++ '/' :: (repo ++ '#' :: num)
  slash : '/' ∉ owner
  hash : '#' ∉ owner ∧ '#' ∉ repo

section
variable {i : GitHubIssue} {path text owner repo num : List Char}

theorem splitOn_eq_iff : (∃ more, path.splitOn '/' =
    owner :: repo :: "issues".toList :: num :: more) ↔ IsIssuePath path owner repo num := by
  constructor
  · rintro ⟨more, h⟩
    obtain ⟨howner, ⟨-, hnil⟩ | ⟨t₁, hpath, h₁⟩⟩ := splitOn_eq_cons.mp h
    · cases hnil
    obtain ⟨hrepo, ⟨-, hnil⟩ | ⟨t₂, ht₁, h₂⟩⟩ := splitOn_eq_cons.mp h₁
    · cases hnil
    obtain ⟨-, ⟨-, hnil⟩ | ⟨t₃, ht₂, h₃⟩⟩ := splitOn_eq_cons.mp h₂
    · cases hnil
    subst ht₂ ht₁ hpath
    obtain ⟨hnum, ⟨ht₃, -⟩ | ⟨t₄, ht₃, -⟩⟩ := splitOn_eq_cons.mp h₃
    · exact ⟨⟨[], by rw [ht₃, List.append_nil], .inl rfl⟩, howner, hrepo, hnum⟩
    · exact ⟨⟨'/' :: t₄, by rw [ht₃], .inr ⟨t₄, rfl⟩⟩, howner, hrepo, hnum⟩
  · rintro ⟨⟨more, rfl, hmore⟩, howner, hrepo, hnum⟩
    have hrest : ∃ pieces, (num ++ more).splitOn '/' = num :: pieces := by
      rcases hmore with rfl | ⟨t, rfl⟩
      · exact ⟨[], by rw [List.append_nil, List.splitOn_eq_singleton hnum]⟩
      · exact ⟨t.splitOn '/', List.splitOn_append_cons_self_of_not_mem hnum t⟩
    obtain ⟨pieces, hpieces⟩ := hrest
    refine ⟨pieces, ?_⟩
    rw [List.splitOn_append_cons_self_of_not_mem howner,
      List.splitOn_append_cons_self_of_not_mem hrepo,
      List.splitOn_append_cons_self_of_not_mem (by decide), hpieces]

theorem splitOnce_iff : (∃ repoPart, splitOnce '#' text = some (repoPart, num) ∧
    splitOnce '/' repoPart = some (owner, repo)) ↔ IsShorthand text owner repo num := by
  constructor
  · rintro ⟨repoPart, htext, hpart⟩
    obtain ⟨rfl, hhash⟩ := splitOnce_eq_some.mp htext
    obtain ⟨rfl, hslash⟩ := splitOnce_eq_some.mp hpart
    simp only [List.mem_append, List.mem_cons, not_or] at hhash
    exact ⟨by simp, hslash, hhash.1, hhash.2.2⟩
  · rintro ⟨rfl, hslash, howner, hrepo⟩
    refine ⟨owner ++ '/' :: repo, ?_, splitOnce_eq_some.mpr ⟨rfl, hslash⟩⟩
    rw [splitOnce_eq_some, List.append_assoc, List.cons_append]
    refine ⟨rfl, ?_⟩
    simp only [List.mem_append, List.mem_cons, not_or]
    exact ⟨howner, by decide, hrepo⟩

/-- The parts that make up an issue. -/
def IsIssue (i : GitHubIssue) (owner repo num : List Char) : Prop :=
  owner = i.owner.toList ∧ repo = i.repo.toList ∧ parseU64 num = some i.number ∧
    owner ≠ [] ∧ repo ≠ []

theorem bind_issue {cond : Bool} (hcond : cond = true ↔ owner ≠ [] ∧ repo ≠ []) :
    ((parseU64 num).bind fun number => if cond then
        some { owner := String.ofList owner, repo := String.ofList repo, number }
      else none) = some i ↔ IsIssue i owner repo num := by
  constructor
  · intro h
    obtain ⟨number, hnumber, h⟩ := Option.bind_eq_some_iff.mp h
    split at h
    · next htrue =>
      cases h
      exact ⟨String.toList_ofList.symm, String.toList_ofList.symm, hnumber, hcond.mp htrue⟩
    · cases h
  · rintro ⟨rfl, rfl, hnumber, hne⟩
    rw [hnumber, Option.bind_some, if_pos (hcond.mpr hne), String.ofList_toList,
      String.ofList_toList]

theorem nonempty_iff : (!owner.isEmpty && !repo.isEmpty) = true ↔ owner ≠ [] ∧ repo ≠ [] := by
  simp

theorem parseIssuePath_eq_some : parseIssuePath path = some i ↔
    ∃ owner repo num, IsIssuePath path owner repo num ∧ IsIssue i owner repo num := by
  constructor
  · intro h
    rw [parseIssuePath] at h
    split at h
    · next owner repo issues num more hsplit =>
      split at h
      · next hissues =>
        subst hissues
        exact ⟨owner, repo, num, splitOn_eq_iff.mp ⟨more, hsplit⟩, (bind_issue nonempty_iff).mp h⟩
      · cases h
    · cases h
  · rintro ⟨owner, repo, num, hpath, hissue⟩
    obtain ⟨more, hsplit⟩ := splitOn_eq_iff.mpr hpath
    rw [parseIssuePath, hsplit]
    dsimp only
    rw [if_pos rfl]
    exact (bind_issue nonempty_iff).mpr hissue

theorem parseShorthand_eq_some : parseShorthand text = some i ↔
    ∃ owner repo num, IsShorthand text owner repo num ∧ IsIssue i owner repo num := by
  -- the owner ends at the first slash
  have hcond : ∀ {owner repo : List Char}, '/' ∉ owner →
      ((!owner.isEmpty && !repo.isEmpty && !owner.contains '/') = true ↔
        owner ≠ [] ∧ repo ≠ []) := by
    intro owner repo hslash
    simp [hslash]
  constructor
  · intro h
    obtain ⟨⟨repoPart, num⟩, htext, h⟩ := Option.bind_eq_some_iff.mp h
    obtain ⟨⟨owner, repo⟩, hpart, h⟩ := Option.bind_eq_some_iff.mp h
    have hslash := (splitOnce_eq_some.mp hpart).2
    exact ⟨owner, repo, num, splitOnce_iff.mp ⟨repoPart, htext, hpart⟩,
      (bind_issue (hcond hslash)).mp h⟩
  · rintro ⟨owner, repo, num, htext, hissue⟩
    obtain ⟨repoPart, hhash, hpart⟩ := splitOnce_iff.mpr htext
    rw [parseShorthand, hhash, Option.bind_some]
    dsimp only
    rw [hpart, Option.bind_some]
    exact (bind_issue (hcond htext.slash)).mpr hissue

/-- What is accepted. -/
theorem parse_eq_some {input : String} : parseGithubIssueUrl input = some i ↔
    ∃ owner repo num, (match githubPath (trim input.toList) with
      | some path => IsIssuePath path owner repo num
      | none => IsShorthand (trim input.toList) owner repo num) ∧ IsIssue i owner repo num := by
  rw [parseGithubIssueUrl]
  cases githubPath (trim input.toList) with
  | some path => exact parseIssuePath_eq_some
  | none => exact parseShorthand_eq_some

/-! ## Reading a reference back -/

/-- A text that ends in a number is not trimmed at its end. -/
theorem rdropWhile_repr (s : List Char) (n : Nat) :
    (s ++ n.repr.toList).rdropWhile isWhitespace = s ++ n.repr.toList := by
  obtain ⟨digits, c, hdigits⟩ :=
    (List.eq_nil_or_concat' n.repr.toList).resolve_left (repr_toList_ne_nil n)
  have hc : c.isDigit = true := isDigit_of_mem_repr (n := n) (by simp [hdigits])
  apply rdropWhile_of_last (c := c)
  · rw [hdigits, ← List.append_assoc, List.getLast?_concat]
  · exact isWhitespace_of_isDigit hc

theorem toList_shortRef (i : GitHubIssue) : i.shortRef.toList =
    i.owner.toList ++ '/' :: (i.repo.toList ++ '#' :: i.number.toNat.repr.toList) := by
  simp [GitHubIssue.shortRef]

/-- The trimmed short form of an issue. -/
theorem trim_shortRef (i : GitHubIssue) : trim i.shortRef.toList =
    i.owner.toList.dropWhile isWhitespace ++ '/' :: (i.repo.toList ++ '#' ::
      i.number.toNat.repr.toList) := by
  have hassoc : ∀ owner : List Char,
      owner ++ '/' :: (i.repo.toList ++ '#' :: i.number.toNat.repr.toList) =
        owner ++ '/' :: i.repo.toList ++ ['#'] ++ i.number.toNat.repr.toList := by simp
  rw [trim, trimMatches, toList_shortRef, dropWhile_append_cons rfl, hassoc, rdropWhile_repr]

theorem notMem_dropWhile {c : Char} {s : List Char} (h : c ∉ s) :
    c ∉ s.dropWhile isWhitespace :=
  fun hmem => h ((List.dropWhile_suffix isWhitespace).subset hmem)

theorem githubPath_shortRef (i : GitHubIssue) (hrepo : i.repo ≠ "")
    (hslash : '/' ∉ i.owner.toList ∧ '/' ∉ i.repo.toList) :
    githubPath (trim i.shortRef.toList) = none := by
  -- the second slash of a URL would begin the repository
  have hscheme : ∀ scheme rest : List Char, '/' ∉ scheme →
      stripPrefix (scheme ++ '/' :: '/' :: rest) (trim i.shortRef.toList) = none := by
    intro scheme rest hs
    rw [Option.eq_none_iff_forall_ne_some]
    intro t ht
    rw [stripPrefix_eq_some, trim_shortRef, List.append_assoc, List.cons_append,
      append_cons_inj (notMem_dropWhile hslash.1) hs] at ht
    obtain ⟨c, repo, hc⟩ := List.exists_cons_of_ne_nil (mt String.toList_eq_nil_iff.mp hrepo)
    rw [hc, List.cons_append, List.cons_append] at ht
    apply hslash.2
    rw [hc, (List.cons.inj ht.2).1]
    exact List.mem_cons_self
  rw [githubPath, Option.or_eq_none_iff]
  exact ⟨hscheme "https:".toList "github.com/".toList (by decide),
    hscheme "http:".toList "github.com/".toList (by decide)⟩

/-- A short form is read back if nothing in it is taken for something else. -/
theorem parse_shortRef (howner : i.owner ≠ "") (hrepo : i.repo ≠ "")
    (hslash : '/' ∉ i.owner.toList ∧ '/' ∉ i.repo.toList) :
    parseGithubIssueUrl i.shortRef = some i ↔
      '#' ∉ i.owner.toList ∧ '#' ∉ i.repo.toList ∧
        i.owner.toList.dropWhile isWhitespace = i.owner.toList := by
  rw [parse_eq_some, githubPath_shortRef i hrepo hslash]
  dsimp only
  rw [trim_shortRef]
  constructor
  · rintro ⟨_, _, num, ⟨htext, hs, hhash⟩, rfl, rfl, -, -⟩
    exact ⟨hhash.1, hhash.2, ((append_cons_inj (notMem_dropWhile hslash.1) hs).mp htext).1⟩
  · rintro ⟨hhash, hhash', htrim⟩
    rw [htrim]
    exact ⟨_, _, _, ⟨rfl, hslash.1, hhash, hhash'⟩, rfl, rfl, parseU64_repr i.number,
      mt String.toList_eq_nil_iff.mp howner, mt String.toList_eq_nil_iff.mp hrepo⟩

/-- A URL of an issue is read. -/
theorem parse_url {host : String}
    (hhost : host = "https://github.com/" ∨ host = "http://github.com/")
    (howner : i.owner ≠ "") (hrepo : i.repo ≠ "")
    (hslash : '/' ∉ i.owner.toList ∧ '/' ∉ i.repo.toList) :
    parseGithubIssueUrl (host ++ i.owner ++ "/" ++ i.repo ++ "/issues/" ++ i.number.toNat.repr) =
      some i := by
  have hpath : ∀ rest : List Char, githubPath (host.toList ++ rest) = some rest := by
    intro rest
    rcases hhost with rfl | rfl
    · rw [githubPath, stripPrefix_append, Option.some_or]
    · rw [githubPath, stripPrefix_append]
      rfl
  have hhead : ∀ rest : List Char,
      (host.toList ++ rest).dropWhile isWhitespace = host.toList ++ rest := by
    intro rest
    rcases hhost with rfl | rfl
    · rfl
    · rfl
  let rest := i.owner.toList ++ '/' :: (i.repo.toList ++ '/' :: ("issues".toList ++ ['/']))
  have htext : (host ++ i.owner ++ "/" ++ i.repo ++ "/issues/" ++
      i.number.toNat.repr).toList = host.toList ++ rest ++ i.number.toNat.repr.toList := by
    simp [rest]
  rw [parse_eq_some, htext, trim, trimMatches, List.append_assoc, hhead, ← List.append_assoc,
    rdropWhile_repr, List.append_assoc, hpath]
  have hdigits : '/' ∉ i.number.toNat.repr.toList := notMem_repr rfl _
  exact ⟨_, _, _, ⟨⟨[], by simp [rest], .inl rfl⟩, hslash.1, hslash.2, hdigits⟩, rfl, rfl,
    parseU64_repr i.number, mt String.toList_eq_nil_iff.mp howner,
    mt String.toList_eq_nil_iff.mp hrepo⟩

/-! ## What is accepted beyond the formats -/

/-- The issue that is read has a name for its owner and its repository, and its short form is read
back. -/
def ReadsBack (input : String) : Prop :=
  ∀ i, parseGithubIssueUrl input = some i → i.owner ≠ "" ∧ i.repo ≠ "" ∧
    '/' ∉ i.owner.toList ∧ '/' ∉ i.repo.toList ∧ parseGithubIssueUrl i.shortRef = some i

/-- A path with more than one slash before a number is taken for an issue, or a URL has an owner
or a repository that the short form does not have. -/
def Overreads (input : String) : Prop :=
  ∃ owner repo num, owner ≠ [] ∧ repo ≠ [] ∧ (parseU64 num).isSome ∧
    match githubPath (trim input.toList) with
    | some path => IsIssuePath path owner repo num ∧
        ('#' ∈ owner ∨ '#' ∈ repo ∨ ∃ c t, owner = c :: t ∧ isWhitespace c = true)
    | none => IsShorthand (trim input.toList) owner repo num ∧ '/' ∈ repo

/-- An owner and a repository that a short form can have. -/
def Plain (owner repo : List Char) : Prop :=
  '/' ∉ owner ∧ '/' ∉ repo ∧ '#' ∉ owner ∧ '#' ∉ repo ∧
    ¬ ∃ c t, owner = c :: t ∧ isWhitespace c = true

/-- An issue that was read is read back from its short form if its parts are plain. -/
theorem IsIssue.plain_iff (h : IsIssue i owner repo num) :
    (i.owner ≠ "" ∧ i.repo ≠ "" ∧ '/' ∉ i.owner.toList ∧ '/' ∉ i.repo.toList ∧
      parseGithubIssueUrl i.shortRef = some i) ↔ Plain owner repo := by
  obtain ⟨rfl, rfl, -, howner, hrepo⟩ := h
  have ho : i.owner ≠ "" := mt String.toList_eq_nil_iff.mpr howner
  have hr : i.repo ≠ "" := mt String.toList_eq_nil_iff.mpr hrepo
  rw [Plain, ← dropWhile_eq_self_iff]
  constructor
  · rintro ⟨-, -, hos, hrs, hback⟩
    exact ⟨hos, hrs, (parse_shortRef ho hr ⟨hos, hrs⟩).mp hback⟩
  · rintro ⟨hos, hrs, hshort⟩
    exact ⟨ho, hr, hos, hrs, (parse_shortRef ho hr ⟨hos, hrs⟩).mpr hshort⟩

theorem IsIssuePath.plain_iff (h : IsIssuePath path owner repo num) : Plain owner repo ↔
    ¬ ('#' ∈ owner ∨ '#' ∈ repo ∨ ∃ c t, owner = c :: t ∧ isWhitespace c = true) := by
  rw [Plain, and_iff_right h.owner, and_iff_right h.repo, not_or, not_or]

/-- A short form in a trimmed text is plain up to slashes in the repository. -/
theorem IsShorthand.plain_iff {s : List Char} (h : IsShorthand (trim s) owner repo num) :
    Plain owner repo ↔ '/' ∉ repo := by
  have hblank : ¬ ∃ c t, owner = c :: t ∧ isWhitespace c = true := by
    rintro ⟨c, t, rfl, hc⟩
    have htrim := dropWhile_of_trimMatches (trimMatches_trimMatches isWhitespace s)
    exact dropWhile_eq_self_iff.mp htrim ⟨c, _, h.text, hc⟩
  rw [Plain, and_iff_right h.slash, and_iff_left ⟨h.hash.1, h.hash.2, hblank⟩]

theorem readsBack_iff (input : String) : ReadsBack input ↔ ¬ Overreads input := by
  constructor
  · rintro hread ⟨owner, repo, num, howner, hrepo, hnum, hformat⟩
    obtain ⟨number, hnumber⟩ := Option.isSome_iff_exists.mp hnum
    have hissue : IsIssue ⟨String.ofList owner, String.ofList repo, number⟩ owner repo num :=
      ⟨String.toList_ofList.symm, String.toList_ofList.symm, hnumber, howner, hrepo⟩
    cases hpath : githubPath (trim input.toList) with
    | some path =>
      rw [hpath] at hformat
      obtain ⟨hformat, hodd⟩ := hformat
      have hparse := parse_eq_some.mpr ⟨owner, repo, num, by rw [hpath]; exact hformat, hissue⟩
      exact hformat.plain_iff.mp (hissue.plain_iff.mp (hread _ hparse)) hodd
    | none =>
      rw [hpath] at hformat
      obtain ⟨hformat, hodd⟩ := hformat
      have hparse := parse_eq_some.mpr ⟨owner, repo, num, by rw [hpath]; exact hformat, hissue⟩
      exact hformat.plain_iff.mp (hissue.plain_iff.mp (hread _ hparse)) hodd
  · intro hread i hparse
    obtain ⟨owner, repo, num, hformat, hissue⟩ := parse_eq_some.mp hparse
    refine hissue.plain_iff.mpr ?_
    obtain ⟨-, -, hnumber, howner, hrepo⟩ := hissue
    have hnum : (parseU64 num).isSome := by
      rw [hnumber]
      rfl
    cases hpath : githubPath (trim input.toList) with
    | some path =>
      rw [hpath] at hformat
      refine hformat.plain_iff.mpr fun hodd => hread ?_
      refine ⟨owner, repo, num, howner, hrepo, hnum, ?_⟩
      rw [hpath]
      exact ⟨hformat, hodd⟩
    | none =>
      rw [hpath] at hformat
      refine hformat.plain_iff.mpr fun hodd => hread ?_
      refine ⟨owner, repo, num, howner, hrepo, hnum, ?_⟩
      rw [hpath]
      exact ⟨hformat, hodd⟩

theorem resolveGithubUrls_of_none {IssueData : Type}
    (fetchIssue : GitHubIssue → Except String IssueData)
    (generatePlan : GitHubIssue → IssueData → Except String String) {plans : List String}
    (h : ∀ plan ∈ plans, parseGithubIssueUrl plan = none) :
    resolveGithubUrls fetchIssue generatePlan plans = .ok plans := by
  induction plans with
  | nil => rfl
  | cons plan plans ih =>
    obtain ⟨hplan, hplans⟩ := List.forall_mem_cons.mp h
    rw [resolveGithubUrls, hplan]
    dsimp only
    rw [ih hplans]
    rfl

/-- Issue references round-trip, what is accepted reads back exactly if it is in one of the two
formats, and everything else is passed through. -/
theorem issue_references (owner repo : String) (number : UInt64) (input : String) :
    (owner ≠ "" → repo ≠ "" →
      (∀ c ∈ owner.toList ++ repo.toList, c ≠ '/' ∧ c ≠ '#' ∧ isWhitespace c = false) →
      parseGithubIssueUrl (GitHubIssue.shortRef ⟨owner, repo, number⟩) =
          some ⟨owner, repo, number⟩ ∧
        ∀ host ∈ ["https://github.com/", "http://github.com/"],
          parseGithubIssueUrl (host ++ owner ++ "/" ++ repo ++ "/issues/" ++ number.toNat.repr) =
            some ⟨owner, repo, number⟩) ∧
    (ReadsBack input ↔ ¬ Overreads input) ∧
    ∀ (IssueData : Type) (fetchIssue : GitHubIssue → Except String IssueData)
      (generatePlan : GitHubIssue → IssueData → Except String String) (plans : List String),
      (∀ plan ∈ plans, parseGithubIssueUrl plan = none) →
        resolveGithubUrls fetchIssue generatePlan plans = .ok plans := by
  refine ⟨fun howner hrepo hchars => ?_, readsBack_iff input,
    fun _ fetchIssue generatePlan _ h => resolveGithubUrls_of_none fetchIssue generatePlan h⟩
  obtain ⟨ho, hr⟩ := List.forall_mem_append.mp hchars
  have hslash : '/' ∉ owner.toList ∧ '/' ∉ repo.toList :=
    ⟨fun h => (ho _ h).1 rfl, fun h => (hr _ h).1 rfl⟩
  refine ⟨(parse_shortRef howner hrepo hslash).mpr ⟨?_, ?_, ?_⟩, fun host hhost => ?_⟩
  · exact fun h => (ho _ h).2.1 rfl
  · exact fun h => (hr _ h).2.1 rfl
  · rw [dropWhile_eq_self_iff]
    rintro ⟨c, t, heq, hc⟩
    have hmem : c ∈ owner.toList := by
      rw [heq]
      exact List.mem_cons_self
    rw [(ho c hmem).2.2] at hc
    cases hc
  · exact parse_url (i := ⟨owner, repo, number⟩) (by simpa using hhost) howner hrepo hslash

/-- A local path is taken for an issue of a repository with a slash in its name. -/
theorem local_path_overread : ¬ ∀ input, ReadsBack input := by
  intro hclaim
  have hparse : parseGithubIssueUrl "dir/sub/name#2" = some ⟨"dir", "sub/name", 2⟩ := by
    decide +kernel
  obtain ⟨-, -, -, hslash, -⟩ := hclaim "dir/sub/name#2" _ hparse
  exact hslash (by decide)

end

end GreaterWill
