import MetricBatch.Backend.Client
import MetricBatch.Proofs.Url.Reading

namespace MetricBatch

open Url

def isUnreserved (c : Char) : Bool :=
  c.isAlphanum || c == '-' || c == '.' || c == '_' || c == '~'

/-- A name that stands for itself in a path. -/
structure IsApiName (name : List Char) : Prop where
  nonempty : name ≠ []
  chars : ∀ c ∈ name, isUnreserved c = true
  not_self : name ≠ ['.']
  not_parent : name ≠ ['.', '.']

theorem isApiName_iff {name : List Char} : IsApiName name ↔
    name ≠ [] ∧ name.all isUnreserved = true ∧ name ≠ ['.'] ∧ name ≠ ['.', '.'] := by
  rw [List.all_eq_true]
  exact ⟨fun ⟨hne, hchars, hself, hparent⟩ => ⟨hne, hchars, hself, hparent⟩,
    fun ⟨hne, hchars, hself, hparent⟩ => ⟨hne, hchars, hself, hparent⟩⟩

instance (name : List Char) : Decidable (IsApiName name) :=
  decidable_of_iff _ isApiName_iff.symm

/-- Such names, each of them behind a slash. -/
def IsApiPath (path : String) : Prop :=
  ∃ names, names ≠ [] ∧ (∀ name ∈ names, IsApiName name) ∧ path.toList = joined names

theorem isAlphanum_lt {c : Char} (h : c.isAlphanum = true) : c.toNat < 0x80 := by
  have hbound {high : Char} (hc : c.val ≤ high.val) (hhigh : high.toNat < 0x80) :
      c.toNat < 0x80 := Nat.lt_of_le_of_lt hc hhigh
  rcases (Bool.or_eq_true _ _).mp h with hletter | hdigit
  · rcases (Bool.or_eq_true _ _).mp hletter with hupper | hlower
    · exact hbound (of_decide_eq_true hupper).2 (by decide)
    · exact hbound (of_decide_eq_true ((Bool.and_eq_true _ _).mp hlower).2) (by decide)
  · exact hbound (of_decide_eq_true ((Bool.and_eq_true _ _).mp hdigit).2) (by decide)

theorem isUnreserved_lt {c : Char} (h : isUnreserved c = true) : c.toNat < 0x80 := by
  simp only [isUnreserved, Bool.or_eq_true, beq_iff_eq] at h
  rcases h with (((h | rfl) | rfl) | rfl) | rfl
  · exact isAlphanum_lt h
  all_goals decide

theorem isUnreserved_ascii : ∀ n < 0x80, isUnreserved (Char.ofNat n) = true →
    isPathChar (Char.ofNat n) = true ∧ (Char.ofNat n).toLower ≠ '%' ∧
      ((Char.ofNat n).toLower = '.' → Char.ofNat n = '.') := by decide +kernel

theorem isUnreserved_spec {c : Char} (h : isUnreserved c = true) :
    isPathChar c = true ∧ c.toLower ≠ '%' ∧ (c.toLower = '.' → c = '.') := by
  have hc := isUnreserved_ascii c.toNat (isUnreserved_lt h)
  rw [Char.ofNat_toNat] at hc
  exact hc h

theorem directoryNames_stops : ∀ name ∈ directoryNames,
    '%' ∈ name.toList ∨ name.toList = ['.'] ∨ name.toList = ['.', '.'] := by decide

theorem IsApiName.not_directory {name : List Char} (h : IsApiName name) :
    String.ofList (name.map Char.toLower) ∉ directoryNames := by
  intro hmem
  have hstop : ∀ c ∈ name, c.toLower = '.' → c = '.' :=
    fun c hc => (isUnreserved_spec (h.chars c hc)).2.2
  have hname := directoryNames_stops _ hmem
  rw [String.toList_ofList] at hname
  rcases hname with hpercent | hself | hparent
  · obtain ⟨c, hc, heq⟩ := List.mem_map.mp hpercent
    exact (isUnreserved_spec (h.chars c hc)).2.1 heq
  · obtain ⟨c, rfl, hc⟩ := List.map_eq_singleton_iff.mp hself
    exact h.not_self (by rw [hstop c (by simp) hc])
  · obtain ⟨c, rest, rfl, hc, hrest⟩ := List.map_eq_cons_iff.mp hparent
    obtain ⟨d, rfl, hd⟩ := List.map_eq_singleton_iff.mp hrest
    exact h.not_parent (by rw [hstop c (by simp) hc, hstop d (by simp) hd])

theorem IsApiName.isSettled {name : List Char} (h : IsApiName name) : IsSettled name :=
  ⟨fun c hc => (isUnreserved_spec (h.chars c hc)).1,
    Bool.eq_false_iff.mpr fun hname => h.not_directory (isParent_eq name hname),
    Bool.eq_false_iff.mpr fun hname => h.not_directory (isSelf_eq name hname)⟩

theorem isApiPath_query (q : Query) : IsApiPath q.path := by
  unfold Query.path
  split
  · exact ⟨["api".toList, "v1".toList, "query_range".toList], by simp, by decide, rfl⟩
  · exact ⟨["api".toList, "v1".toList, "query".toList], by simp, by decide, rfl⟩

namespace Client

theorem toList_withoutTrailingSlashes (path : String) :
    (withoutTrailingSlashes path).toList = path.toList.rdropWhile (· == '/') := by
  rw [withoutTrailingSlashes, String.toList_ofList]
  rfl

theorem rdropWhile_toList (list : List String) : (list.map String.toList).rdropWhile List.isEmpty =
    (list.rdropWhile String.isEmpty).map String.toList := by
  have hempty : List.isEmpty ∘ String.toList = String.isEmpty := by
    funext s
    rw [Bool.eq_iff_iff, Function.comp_apply, List.isEmpty_iff, String.toList_eq_nil_iff,
      String.isEmpty_iff]
  rw [List.rdropWhile, List.rdropWhile, ← List.map_reverse, List.dropWhile_map, hempty,
    List.map_reverse]

/-- The text of a path without the slashes at its end. -/
theorem withoutTrailingSlashes_segments {list : List String} (h : AllSettled list) :
    (withoutTrailingSlashes (Path.segments list).text).toList =
      joined ((list.rdropWhile String.isEmpty).map String.toList) := by
  have hslash : ∀ s ∈ list.map String.toList, '/' ∉ s := by
    intro s hs
    obtain ⟨s, hmem, rfl⟩ := List.mem_map.mp hs
    exact not_mem_of_path (h s hmem).chars (by decide)
  rw [toList_withoutTrailingSlashes, text_segments, rdropWhile_joined hslash, rdropWhile_toList]

theorem withPath_joined {u : Url} (hhttp : isHttp u.scheme = true) {names : List (List Char)}
    (hne : names ≠ []) (h : ∀ name ∈ names, IsSettled name) {path : String}
    (hpath : path.toList = joined names) :
    (u.withPath path).path = .segments (names.map String.ofList) := by
  have hkept : (joined names).filter (! isLeftOut ·) = joined names := by
    rw [List.filter_eq_self]
    intro c hc
    rcases joined_chars h c hc with rfl | hchar
    · rfl
    · simp [isLeftOut, isPathChar_ne hchar (d := '\t') (by decide),
        isPathChar_ne hchar (d := '\n') (by decide), isPathChar_ne hchar (d := '\r') (by decide)]
  rw [withPath, hpath, hkept, isSpecial_of_isHttp hhttp]
  exact rootedPath_joined hne h

variable {c : Client} {list : List String} {names : List (List Char)} {path : String}

/-- The segments of the base URL and of the path are all there, but for empty ones between them. -/
theorem url_segments (hhttp : isHttp c.baseUrl.scheme = true)
    (hbase : c.baseUrl.path = .segments list) (hsettled : AllSettled list) (hne : names ≠ [])
    (hnames : ∀ name ∈ names, IsApiName name) (hpath : path.toList = joined names) :
    (c.url path).path =
      .segments (list.rdropWhile String.isEmpty ++ names.map String.ofList) := by
  have hkept : ∀ s ∈ list.rdropWhile String.isEmpty, IsSettled s.toList :=
    fun s hs => hsettled s ((List.rdropWhile_prefix _ _).subset hs)
  have hall : ∀ name ∈ (list.rdropWhile String.isEmpty).map String.toList ++ names,
      IsSettled name := by
    rw [List.forall_mem_append, List.forall_mem_map]
    exact ⟨hkept, fun name hname => (hnames name hname).isSettled⟩
  have htext : (withoutTrailingSlashes c.baseUrl.path.text ++ path).toList =
      joined ((list.rdropWhile String.isEmpty).map String.toList ++ names) := by
    rw [String.toList_append, hbase, withoutTrailingSlashes_segments hsettled, hpath, joined,
      joined, joined, List.flatMap_append]
  have hread := withPath_joined hhttp (by simp [hne]) hall htext
  have hid : String.ofList ∘ String.toList = id := funext fun _ => String.ofList_toList
  rw [List.map_append, List.map_map, hid, List.map_id] at hread
  unfold url
  dsimp only
  exact hread

theorem url_path_text (hhttp : isHttp c.baseUrl.scheme = true)
    (hbase : c.baseUrl.path = .segments list) (hsettled : AllSettled list)
    (hpath : IsApiPath path) :
    (c.url path).path.text = withoutTrailingSlashes c.baseUrl.path.text ++ path := by
  obtain ⟨names, hne, hnames, hjoined⟩ := hpath
  have hid : String.toList ∘ String.ofList = id := funext fun _ => String.toList_ofList
  rw [← String.toList_inj, url_segments hhttp hbase hsettled hne hnames hjoined, hbase,
    String.toList_append, withoutTrailingSlashes_segments hsettled, hjoined, text_segments,
    List.map_append, List.map_map, hid, List.map_id, joined, joined, joined, List.flatMap_append]

theorem ofEndpoint_ok_iff {endpoint : String} : ofEndpoint endpoint = .ok c ↔
    Url.parse endpoint = .ok c.baseUrl ∧ isHttp c.baseUrl.scheme = true ∧ c.token = none := by
  unfold ofEndpoint
  constructor
  · intro h
    split at h
    · cases h
    · rename_i url hparse
      split at h
      · rename_i hhttp
        obtain rfl := Except.ok.inj h
        exact ⟨hparse, hhttp, rfl⟩
      · cases h
  · rintro ⟨hparse, hhttp, htoken⟩
    cases c
    cases htoken
    rw [hparse]
    exact if_pos hhttp

theorem url_congr {c c' : Client} (hscheme : c'.baseUrl.scheme = c.baseUrl.scheme)
    (hauthority : c'.baseUrl.authority = c.baseUrl.authority)
    (hfragment : c'.baseUrl.fragment = c.baseUrl.fragment)
    (hpath : withoutTrailingSlashes c'.baseUrl.path.text =
      withoutTrailingSlashes c.baseUrl.path.text) (path : String) : c'.url path = c.url path := by
  rw [url, url, withPath, withPath, hscheme, hauthority, hfragment, hpath]

/-- The URLs of a backend's paths. Scheme, credentials, host, port and fragment are those of the
backend's own URL, there is no query, and the path is that URL's without the slashes at its end and then
the path itself. So slashes at the end of the path of an endpoint make no difference, and neither does
its query. -/
theorem base_path_kept {endpoint : String} (h : ofEndpoint endpoint = .ok c) :
    (∀ q : Query, IsApiPath q.path) ∧
    (∀ path, IsApiPath path →
      (c.url path).scheme = c.baseUrl.scheme ∧ (c.url path).authority = c.baseUrl.authority ∧
      (c.url path).fragment = c.baseUrl.fragment ∧ (c.url path).query = none ∧
      (c.url path).path.text = withoutTrailingSlashes c.baseUrl.path.text ++ path) ∧
    ∀ endpoint', Url.Alike endpoint' endpoint →
      ∃ c', ofEndpoint endpoint' = .ok c' ∧ ∀ path, c'.url path = c.url path := by
  obtain ⟨hparse, hhttp, -⟩ := ofEndpoint_ok_iff.mp h
  obtain ⟨list, hbase, hsettled⟩ := Url.parse_settled hparse hhttp
  refine ⟨isApiPath_query, fun path hpath => ?_, fun endpoint' halike => ?_⟩
  · have htext := url_path_text hhttp hbase hsettled hpath
    exact ⟨by rw [url, withPath], by rw [url, withPath], by rw [url, withPath], by rw [url], htext⟩
  obtain ⟨url', list₁, list', hparse', hscheme, hauthority, hfragment, hlist₁, hlist', hsame⟩ :=
    Url.parse_alike halike hparse hhttp
  have hhttp' : isHttp url'.scheme = true := by rw [hscheme, hhttp]
  obtain ⟨list₂, hlist₂, hsettled'⟩ := Url.parse_settled hparse' hhttp'
  obtain rfl : list₁ = list := Path.segments.inj (hlist₁.symm.trans hbase)
  obtain rfl : list₂ = list' := Path.segments.inj (hlist₂.symm.trans hlist')
  refine ⟨⟨url', none⟩, ofEndpoint_ok_iff.mpr ⟨hparse', hhttp', rfl⟩,
    url_congr hscheme hauthority hfragment ?_⟩
  rw [hlist', hbase, ← String.toList_inj, withoutTrailingSlashes_segments hsettled',
    withoutTrailingSlashes_segments hsettled, hsame]

/-- The path has an encoded slash, an empty segment and a letter that is encoded. -/
theorem base_path_kept_encoded :
    let c : Client := ⟨⟨"http", some ⟨"u", some "p", .ipv6 [0, 0, 0, 0, 0, 0, 0, 1], some 8080⟩,
      .segments ["a%2Fb", "", "%C3%A9", ""], some "x=1", some "f"⟩, none⟩
    ofEndpoint "http://u:p@[::1]:8080/a%2Fb//é/?x=1#f" = .ok c ∧
      (c.url "/api/v1/query").path.text = "/a%2Fb//%C3%A9/api/v1/query" ∧
      ∃ c', ofEndpoint "http://u:p@[::1]:8080/a%2Fb//é///?y#f" = .ok c' ∧
        ∀ path, c'.url path = c.url path := by
  intro c
  have hok : ofEndpoint "http://u:p@[::1]:8080/a%2Fb//é/?x=1#f" = .ok c := rfl
  obtain ⟨hquery, hkept, hsame⟩ := base_path_kept hok
  obtain ⟨-, -, -, -, htext⟩ := hkept _ (hquery ⟨"up", none⟩)
  have htrimmed : withoutTrailingSlashes c.baseUrl.path.text = "/a%2Fb//%C3%A9" := by decide
  rw [htrimmed] at htext
  exact ⟨hok, htext, hsame _ ⟨by decide, by decide⟩⟩

end Client

end MetricBatch
