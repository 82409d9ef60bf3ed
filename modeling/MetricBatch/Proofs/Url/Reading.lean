import MetricBatch.Proofs.Url.Path
import MetricBatch.Url.Parser

namespace MetricBatch.Url

/-- The characters of a text that count. -/
def readable (text : String) : List Char := (trimEdges text.toList).filter (! isLeftOut ·)

/-- What a path ends at. -/
def endsPath (c : Char) : Bool := c == '?' || c == '#'

/-- A text in three parts: what is before the slashes at the end of its path, these slashes, and its query
and fragment. -/
structure Cut (cs base slashes tail : List Char) : Prop where
  eq : cs = base ++ (slashes ++ tail)
  base_path : ∀ c ∈ base, endsPath c = false
  base_last : ∀ c ∈ base.getLast?, isSlash c = false
  slashes : ∀ c ∈ slashes, isSlash c = true
  tail_head : ∀ c ∈ tail.head?, endsPath c = true

/-- The text before the slashes at the end of the path. -/
def baseText (cs : List Char) : List Char := (cs.takeWhile (! endsPath ·)).rdropWhile isSlash

def fragmentText (cs : List Char) : Option (List Char) := (splitAt? '#' cs).2

/-- Two texts that differ in nothing but the slashes at the end of their paths and their queries. -/
structure Alike (text text' : String) : Prop where
  base : baseText (readable text) = baseText (readable text')
  fragment : fragmentText (readable text) = fragmentText (readable text')

theorem exists_cut (cs : List Char) : ∃ slashes tail, Cut cs (baseText cs) slashes tail := by
  have hpart : baseText cs <+: cs.takeWhile (! endsPath ·) := List.rdropWhile_prefix _ _
  refine ⟨(cs.takeWhile (! endsPath ·)).rtakeWhile isSlash, cs.dropWhile (! endsPath ·),
    ?_, fun c hc => ?_, fun c hc => ?_, fun c hc => List.mem_rtakeWhile_imp hc, fun c hc => ?_⟩
  · rw [← List.append_assoc, baseText, List.rdropWhile_append_rtakeWhile,
      List.takeWhile_append_dropWhile]
  · simpa using List.mem_takeWhile_imp (hpart.subset hc)
  · obtain ⟨hne, rfl⟩ := List.mem_getLast?_eq_getLast hc
    exact Bool.eq_false_iff.mpr (List.rdropWhile_last_not isSlash _ hne)
  · have hend := List.head?_dropWhile_not (! endsPath ·) cs
    rw [hc] at hend
    simpa using hend

theorem splitAt?_append {c : Char} {before : List Char} (h : c ∉ before) (cs : List Char) :
    splitAt? c (before ++ cs) = (before ++ (splitAt? c cs).1, (splitAt? c cs).2) := by
  have hne : ∀ d ∈ before, (d != c) = true := by
    intro d hd
    rw [bne_iff_ne]
    rintro rfl
    exact h hd
  unfold splitAt?
  rw [List.dropWhile_append_of_pos hne, List.takeWhile_append_of_pos hne]
  split <;> rfl

theorem not_mem_of_endsPath {path : List Char} (h : ∀ c ∈ path, endsPath c = false) {c : Char}
    (hc : endsPath c = true) : c ∉ path := by
  intro hmem
  rw [h c hmem] at hc
  cases hc

theorem tail_ofText_append {path tail : List Char} (hpath : ∀ c ∈ path, endsPath c = false)
    (htail : ∀ c ∈ tail.head?, endsPath c = true) : Tail.ofText (path ++ tail) =
      ⟨path, (Tail.ofText tail).query, (Tail.ofText tail).fragment⟩ := by
  have hnone : (splitAt? '?' (splitAt? '#' tail).1).1 = [] := by
    cases tail with
    | nil => rfl
    | cons c rest =>
      have hc := htail c rfl
      rw [endsPath, Bool.or_eq_true, beq_iff_eq, beq_iff_eq] at hc
      rcases hc with rfl | rfl
      · have hquery := @splitAt?_append '#' ['?'] (by decide) rest
        rw [List.singleton_append] at hquery
        rw [hquery]
        rfl
      · rfl
  unfold Tail.ofText
  rw [splitAt?_append (not_mem_of_endsPath hpath rfl)]
  dsimp only
  rw [splitAt?_append (not_mem_of_endsPath hpath rfl), hnone, List.append_nil]

theorem fragmentText_append {path tail : List Char} (hpath : ∀ c ∈ path, endsPath c = false) :
    fragmentText (path ++ tail) = fragmentText tail := by
  unfold fragmentText
  rw [splitAt?_append (not_mem_of_endsPath hpath rfl)]

/-- A run that ends before the second of two texts at the latest. -/
theorem takeWhile_append_head {p : Char → Bool} {rest : List Char}
    (h : ∀ c ∈ rest.head?, p c = false) (cs : List Char) :
    (cs ++ rest).takeWhile p = cs.takeWhile p ∧
      (cs ++ rest).drop (cs.takeWhile p).length = cs.drop (cs.takeWhile p).length ++ rest := by
  have hnone : rest.takeWhile p = [] := by
    cases rest with
    | nil => rfl
    | cons d rest => simp [h d rfl]
  refine ⟨?_, List.drop_append_of_le_length (List.takeWhile_prefix p).length_le⟩
  rw [List.takeWhile_append, hnone, List.append_nil]
  split
  · rename_i hall
    exact ((List.takeWhile_prefix p).eq_of_length hall).symm
  · rfl

theorem splitScheme?_append {cs rest : List Char}
    (h : ∀ c ∈ rest.head?, isSchemeChar c = false ∧ c ≠ ':') : splitScheme? (cs ++ rest) =
      (splitScheme? cs).map fun (scheme, more) => (scheme, more ++ rest) := by
  cases cs with
  | nil =>
    cases rest with
    | nil => rfl
    | cons c rest =>
      obtain ⟨hc, hcolon⟩ := h c rfl
      simp [splitScheme?, hc, hcolon]
  | cons c cs =>
    obtain ⟨hname, hdrop⟩ := takeWhile_append_head (fun d hd => (h d hd).1) (c :: cs)
    rw [List.cons_append] at hname hdrop
    unfold splitScheme?
    dsimp only [List.cons_append]
    rw [hname, hdrop]
    generalize (c :: cs).drop _ = more
    cases more with
    | nil =>
      rw [List.nil_append]
      split
      · exact absurd rfl (h ':' rfl).2
      · rfl
    | cons d more =>
      rw [List.cons_append]
      by_cases hd : d = ':'
      · subst hd
        cases c.isAlpha <;> rfl
      · split
        · rename_i heq
          exact absurd (List.cons.inj heq).1 hd
        · split
          · rename_i heq
            exact absurd (List.cons.inj heq).1 hd
          · rfl

theorem splitScheme?_some {cs rest : List Char} {scheme : String}
    (h : splitScheme? cs = some (scheme, rest)) : ∃ name, cs = name ++ ':' :: rest := by
  unfold splitScheme? at h
  split at h
  · cases h
  · rename_i c more
    dsimp only at h
    split at h
    · rename_i rest' hdrop
      split at h
      · obtain ⟨-, rfl⟩ := Prod.mk.inj (Option.some.inj h)
        refine ⟨(c :: more).take ((c :: more).takeWhile isSchemeChar).length, ?_⟩
        rw [← hdrop, List.take_append_drop]
      · cases h
    · cases h

theorem readAuthority_of_empty {scheme : String} (h : isSpecial scheme = true) {cs : List Char}
    {user : Option (List Char)} (hcs : splitUser cs = (user, [])) (isAll : Bool) :
    readAuthority scheme cs isAll = .error .emptyHost := by
  unfold readAuthority
  rw [h, hcs]
  dsimp only
  cases user = some [] && ([] : List Char).isEmpty && !isAll <;> rfl

/-- Without a host there is no authority, whatever follows it. -/
theorem readAuthority_isAll {scheme : String} (h : isSpecial scheme = true) (cs : List Char)
    (isAll : Bool) : readAuthority scheme cs isAll = readAuthority scheme cs true := by
  obtain ⟨user, rest, hcs⟩ : ∃ user rest, splitUser cs = (user, rest) := ⟨_, _, rfl⟩
  cases rest with
  | nil => rw [readAuthority_of_empty h hcs, readAuthority_of_empty h hcs]
  | cons c rest =>
    have hflag (isAll : Bool) : (user = some [] && (c :: rest).isEmpty && !isAll) = false := by
      rw [List.isEmpty_cons, Bool.and_false, Bool.false_and]
    unfold readAuthority
    rw [hcs]
    dsimp only
    rw [hflag, hflag]

theorem endsAuthority_eq (c : Char) : endsAuthority true c = (isSlash c || endsPath c) := by
  simp only [endsAuthority, isSlash, endsPath, Bool.true_and]
  cases c == '/' <;> cases c == '\\' <;> simp

theorem isSlash_iff {c : Char} : isSlash c = true ↔ c = '/' ∨ c = '\\' := by
  simp [isSlash]

theorem endsPath_of_isSlash {c : Char} (h : isSlash c = true) : endsPath c = false := by
  rcases isSlash_iff.mp h with rfl | rfl <;> rfl

def authorityText (cs : List Char) : List Char := cs.takeWhile (! endsAuthority true ·)

def afterAuthority (cs : List Char) : List Char := cs.drop (authorityText cs).length

theorem afterAuthority_head {cs : List Char} (h : ∀ c ∈ cs, endsPath c = false) :
    ∀ c ∈ (afterAuthority cs).head?, c = '/' ∨ c = '\\' := by
  have hdrop : afterAuthority cs = cs.dropWhile (! endsAuthority true ·) := by
    calc cs.drop (authorityText cs).length
        = (authorityText cs ++ cs.dropWhile (! endsAuthority true ·)).drop
            (authorityText cs).length := by rw [authorityText, List.takeWhile_append_dropWhile]
      _ = cs.dropWhile (! endsAuthority true ·) := List.drop_left
  intro c hc
  have hend := List.head?_dropWhile_not (! endsAuthority true ·) cs
  rw [hdrop] at hc
  rw [hc] at hend
  dsimp only at hend
  have hmem := (List.dropWhile_suffix _).mem (List.mem_of_mem_head? hc)
  rw [Bool.not_eq_false', endsAuthority_eq, h c hmem, Bool.or_false] at hend
  exact isSlash_iff.mp hend

/-- The authority is read from the text before the slashes, and the path ends with them. -/
theorem readHierarchical_cut {scheme : String} (h : isSpecial scheme = true)
    {base slashes tail : List Char} (hbase : ∀ c ∈ base, endsPath c = false)
    (hslashes : ∀ c ∈ slashes, isSlash c = true) (htail : ∀ c ∈ tail.head?, endsPath c = true) :
    readHierarchical scheme (base ++ (slashes ++ tail)) =
      (readAuthority scheme (authorityText base) true).map fun a =>
        build scheme (some a) (rootedPath true (afterAuthority base ++ slashes))
          (Tail.ofText tail) := by
  have hhead : ∀ c ∈ (slashes ++ tail).head?, (! endsAuthority true c) = false := by
    intro c hc
    rw [endsAuthority_eq]
    cases slashes with
    | nil => simp [htail c hc]
    | cons d slashes =>
      obtain rfl : d = c := Option.some.inj hc
      simp [hslashes d (by simp)]
  obtain ⟨htake, hdrop⟩ := takeWhile_append_head hhead base
  have hpath : ∀ c ∈ afterAuthority base ++ slashes, endsPath c = false := by
    rw [List.forall_mem_append]
    exact ⟨fun c hc => hbase c (List.mem_of_mem_drop hc),
      fun c hc => endsPath_of_isSlash (hslashes c hc)⟩
  unfold readHierarchical
  rw [h]
  dsimp only
  rw [htake, hdrop, ← authorityText, ← afterAuthority, ← List.append_assoc,
    tail_ofText_append hpath htail, readAuthority_isAll h]
  cases readAuthority scheme (authorityText base) true <;> rfl

theorem parse_of_scheme {text : String} {scheme : String} {rest : List Char}
    (h : splitScheme? (readable text) = some (scheme, rest)) (hhttp : isHttp scheme = true) :
    parse text = readHierarchical scheme (rest.dropWhile isSlash) := by
  have hsplit : splitScheme? ((trimEdges text.toList).filter (! isLeftOut ·)) =
      some (scheme, rest) := h
  rw [isHttp, Bool.or_eq_true, beq_iff_eq, beq_iff_eq] at hhttp
  unfold parse
  rw [hsplit]
  rcases hhttp with rfl | rfl <;> rfl

theorem readHierarchical_ok {scheme : String} {cs : List Char} {url : Url}
    (h : readHierarchical scheme cs = .ok url) : ∃ (a : Authority) (tail : Tail),
      url = build scheme (some a) (rootedPath (isSpecial scheme) tail.path) tail := by
  unfold readHierarchical at h
  dsimp only at h
  generalize readAuthority scheme _ _ = authority at h
  cases authority with
  | error e => cases h
  | ok a => exact ⟨a, _, (Except.ok.inj h).symm⟩

theorem readHierarchical_scheme {scheme : String} {cs : List Char} {url : Url}
    (h : readHierarchical scheme cs = .ok url) : url.scheme = scheme := by
  obtain ⟨a, tail, rfl⟩ := readHierarchical_ok h
  rfl

theorem readFile_scheme {cs : List Char} {url : Url} (h : readFile cs = .ok url) :
    url.scheme = "file" := by
  unfold readFile at h
  split at h
  · split at h
    · dsimp only at h
      generalize readFileHost _ = authority at h
      cases authority with
      | error e => cases h
      | ok a =>
        cases h
        rfl
    · cases h
      rfl
  · cases h
    rfl

theorem readOther_scheme {scheme : String} {cs : List Char} {url : Url}
    (h : readOther scheme cs = .ok url) : url.scheme = scheme := by
  unfold readOther at h
  split at h
  · exact readHierarchical_scheme h
  · cases h
    rfl
  · cases h
    rfl

theorem scheme_of_parse {text : String} {url : Url} (h : parse text = .ok url) :
    ∃ rest, splitScheme? (readable text) = some (url.scheme, rest) := by
  unfold parse at h
  split at h
  · cases h
  · rename_i scheme rest hsplit
    have hscheme : url.scheme = scheme := by
      split at h
      · rename_i hfile
        rw [hfile]
        exact readFile_scheme h
      · split at h
        · exact readHierarchical_scheme h
        · exact readOther_scheme h
    rw [hscheme]
    exact ⟨rest, hsplit⟩

theorem isSpecial_of_isHttp {scheme : String} (h : isHttp scheme = true) :
    isSpecial scheme = true := by
  rw [isHttp, Bool.or_eq_true, beq_iff_eq, beq_iff_eq] at h
  rcases h with rfl | rfl <;> rfl

theorem parse_settled {text : String} {url : Url} (h : parse text = .ok url)
    (hhttp : isHttp url.scheme = true) :
    ∃ list, url.path = .segments list ∧ AllSettled list := by
  obtain ⟨rest, hscheme⟩ := scheme_of_parse h
  rw [parse_of_scheme hscheme hhttp] at h
  obtain ⟨a, tail, hurl⟩ := readHierarchical_ok h
  rw [hurl, isSpecial_of_isHttp hhttp]
  exact rootedPath_settled _

namespace Cut

variable {text : String} {base slashes tail : List Char}

theorem splitScheme? (h : Cut (readable text) base slashes tail) : splitScheme? (readable text) =
    (Url.splitScheme? base).map fun (scheme, more) => (scheme, more ++ (slashes ++ tail)) := by
  rw [h.eq]
  refine splitScheme?_append fun c hc => ?_
  have hend : isSlash c = true ∨ endsPath c = true := by
    rcases slashes with - | ⟨d, slashes⟩
    · exact .inr (h.tail_head c hc)
    · obtain rfl : d = c := Option.some.inj hc
      exact .inl (h.slashes d (by simp))
  rw [isSlash_iff, endsPath, Bool.or_eq_true, beq_iff_eq, beq_iff_eq] at hend
  rcases hend with (rfl | rfl) | rfl | rfl <;> decide

theorem fragmentText (h : Cut (readable text) base slashes tail) :
    fragmentText (readable text) = (Tail.ofText tail).fragment := by
  have hbefore : ∀ c ∈ base ++ slashes, endsPath c = false :=
    List.forall_mem_append.mpr ⟨h.base_path, fun c hc => endsPath_of_isSlash (h.slashes c hc)⟩
  rw [h.eq, ← List.append_assoc, fragmentText_append hbefore]
  rfl

/-- After the scheme the base does not end with a slash either. -/
theorem dropWhile_rest (h : Cut (readable text) base slashes tail) {scheme : String}
    {rest : List Char} (hscheme : Url.splitScheme? base = some (scheme, rest)) (hrest : rest ≠ []) :
    (rest ++ (slashes ++ tail)).dropWhile isSlash =
      rest.dropWhile isSlash ++ (slashes ++ tail) := by
  obtain ⟨name, rfl⟩ := splitScheme?_some hscheme
  have hmem : rest.getLast hrest ∈ (name ++ ':' :: rest).getLast? := by
    simp [List.getLast?_cons, List.getLast?_eq_some_getLast hrest]
  have hlast := h.base_last _ hmem
  have hne : rest.dropWhile isSlash ≠ [] := by
    intro hall
    rw [List.dropWhile_eq_nil_iff] at hall
    rw [hall _ (List.getLast_mem hrest)] at hlast
    cases hlast
  rw [List.dropWhile_append, List.isEmpty_eq_false_iff.mpr hne, if_neg Bool.false_ne_true]

theorem located_path (h : Cut (readable text) base slashes tail) {scheme : String}
    {rest : List Char} (hscheme : Url.splitScheme? base = some (scheme, rest)) :
    ∀ c ∈ rest.dropWhile isSlash, endsPath c = false := by
  obtain ⟨name, hname⟩ := splitScheme?_some hscheme
  intro c hc
  have hrest := (List.dropWhile_suffix isSlash).mem hc
  exact h.base_path c (by rw [hname]; simp [hrest])

/-- The text of a web server's URL is read in these parts. -/
theorem parse (h : Cut (readable text) base slashes tail) {scheme : String} {rest : List Char}
    (hscheme : Url.splitScheme? base = some (scheme, rest)) (hhttp : isHttp scheme = true) :
    parse text = (readAuthority scheme (authorityText (rest.dropWhile isSlash)) true).map fun a =>
      build scheme (some a) (rootedPath true (afterAuthority (rest.dropWhile isSlash) ++ slashes))
        (Tail.ofText tail) := by
  have hspecial := isSpecial_of_isHttp hhttp
  have hsplit := h.splitScheme?
  rw [hscheme] at hsplit
  rw [parse_of_scheme hsplit hhttp]
  by_cases hrest : rest = []
  · -- There is no host, neither for the text nor for these parts of it.
    have hslashes : (slashes ++ tail).dropWhile isSlash = tail := by
      rw [List.dropWhile_append_of_pos h.slashes]
      cases htail : tail with
      | nil => rfl
      | cons c rest =>
        have hc : isSlash c = false :=
          Bool.eq_false_iff.mpr fun hslash => by
            have hend := h.tail_head c (by rw [htail]; rfl)
            rw [endsPath_of_isSlash hslash] at hend
            cases hend
        rw [List.dropWhile_cons, hc, if_neg Bool.false_ne_true]
    have hnone := readHierarchical_cut hspecial (List.forall_mem_nil _) (List.forall_mem_nil _)
      h.tail_head
    have herror : readAuthority scheme (authorityText []) true = .error .emptyHost :=
      readAuthority_of_empty hspecial rfl true
    rw [hrest, List.nil_append, hslashes, List.dropWhile_nil, herror]
    refine hnone.trans ?_
    rw [herror]
    rfl
  · rw [h.dropWhile_rest hscheme hrest]
    exact readHierarchical_cut hspecial (h.located_path hscheme) h.slashes h.tail_head

end Cut

/-- Such texts are read as URLs that do not differ in anything else either. -/
theorem parse_alike {text text' : String} {url : Url} (halike : Alike text' text)
    (h : parse text = .ok url) (hhttp : isHttp url.scheme = true) :
    ∃ url' list list', parse text' = .ok url' ∧ url'.scheme = url.scheme ∧
      url'.authority = url.authority ∧ url'.fragment = url.fragment ∧
      url.path = .segments list ∧ url'.path = .segments list' ∧
      list'.rdropWhile String.isEmpty = list.rdropWhile String.isEmpty := by
  obtain ⟨hbase, hfragment⟩ := halike
  obtain ⟨slashes, tail, hcut⟩ := exists_cut (readable text)
  obtain ⟨slashes', tail', hcut'⟩ := exists_cut (readable text')
  rw [hbase] at hcut'
  rw [hcut.fragmentText, hcut'.fragmentText] at hfragment
  obtain ⟨whole, hwhole⟩ := scheme_of_parse h
  rw [hcut.splitScheme?, Option.map_eq_some_iff] at hwhole
  obtain ⟨⟨scheme, rest⟩, hscheme, heq⟩ := hwhole
  obtain ⟨hurl, -⟩ := Prod.mk.inj heq
  subst hurl
  have hread := hcut.parse hscheme hhttp
  have hread' := hcut'.parse hscheme hhttp
  have hhead : ∀ c ∈ (afterAuthority (rest.dropWhile isSlash)).head?, c = '/' ∨ c = '\\' :=
    afterAuthority_head (hcut.located_path hscheme)
  rw [h] at hread
  generalize readAuthority url.scheme _ true = authority at hread hread'
  cases authority with
  | error e => cases hread
  | ok a =>
    have hurl := Except.ok.inj hread
    generalize afterAuthority (rest.dropWhile isSlash) = rooted at hurl hread' hhead
    obtain ⟨list₀, hlist₀, -⟩ := rootedPath_settled rooted
    obtain ⟨list, hlist, -⟩ := rootedPath_settled (rooted ++ slashes)
    obtain ⟨list', hlist', -⟩ := rootedPath_settled (rooted ++ slashes')
    have hsame := rootedPath_slashes hhead (fun c hc => isSlash_iff.mp (hcut.slashes c hc))
      hlist₀ hlist
    have hsame' := rootedPath_slashes hhead (fun c hc => isSlash_iff.mp (hcut'.slashes c hc))
      hlist₀ hlist'
    refine ⟨_, list, list', hread', rfl, ?_, ?_, ?_, hlist', hsame'.trans hsame.symm⟩
    · rw [hurl]
      rfl
    · rw [hurl]
      exact congrArg (Option.map fun f => String.ofList (Percent.encode Percent.fragment f))
        hfragment
    · rw [hurl]
      exact hlist

end MetricBatch.Url
