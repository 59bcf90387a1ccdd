import Passage.Proofs.Target.Layout

namespace Passage

/-- What the items of a query ask for: names with their values, in order. -/
inductive Asks : List String → List (String × String) → Prop where
  | nothing : Asks [] []
  /-- The name ends in front of the first equals sign; the value may hold more of them. -/
  | pair {key value : String} {items : List String} {pairs : List (String × String)}
      (key_whole : '&' ∉ key.toList) (key_ends : '=' ∉ key.toList) (value_whole : '&' ∉ value.toList)
      (more : Asks items pairs) : Asks ((key ++ "=" ++ value) :: items) ((key, value) :: pairs)
  | stray {item : String} {items : List String} {pairs : List (String × String)}
      (whole : '&' ∉ item.toList) (unsigned : '=' ∉ item.toList) (more : Asks items pairs) :
      Asks (item :: items) pairs

/-- What is dropped from the front of joined pieces is dropped from the first of them, since no separator is. -/
theorem dropWhile_intercalate {p : Char → Bool} {sep : Char} (stays : p sep = false) (piece : List Char)
    (pieces : List (List Char)) :
    ([sep].intercalate (piece :: pieces)).dropWhile p = [sep].intercalate (piece.dropWhile p :: pieces) := by
  cases pieces with
  | nil => rw [List.intercalate_singleton, List.intercalate_singleton]
  | cons next rest =>
    have behind : ([sep] ++ [sep].intercalate (next :: rest)).dropWhile p =
        [sep] ++ [sep].intercalate (next :: rest) :=
      List.dropWhile_cons_of_neg (by simp [stays])
    rw [List.intercalate_cons_cons, List.intercalate_cons_cons, List.append_assoc, List.append_assoc,
      List.dropWhile_append, behind]
    -- also if nothing is left of the first piece, the separator behind it stays
    split
    · next gone => rw [List.isEmpty_iff.mp gone, List.nil_append]
    · rfl

namespace Asks

variable {items : List String} {pairs : List (String × String)}

theorem whole (asks : Asks items pairs) : ∀ item ∈ items, '&' ∉ item.toList := by
  induction asks with
  | nothing => exact List.forall_mem_nil _
  | pair key_whole _ value_whole _ ih =>
    exact List.forall_mem_cons.mpr ⟨by simp [key_whole, value_whole], ih⟩
  | stray whole _ _ ih => exact List.forall_mem_cons.mpr ⟨whole, ih⟩

/-- The pairs are what is found by cutting each item at its first equals sign. -/
theorem filterMap_splitFirst (asks : Asks items pairs) :
    (items.map String.toList).filterMap (Text.splitFirst '=') =
      pairs.map fun pair => (pair.1.toList, pair.2.toList) := by
  induction asks with
  | nothing => rfl
  | @pair key value items pairs _ key_ends _ _ ih =>
    have cut : Text.splitFirst '=' (key ++ "=" ++ value).toList = some (key.toList, value.toList) := by
      rw [String.toList_append, String.toList_append, List.append_assoc]
      exact Text.splitFirst_append key_ends
    rw [List.map_cons, List.filterMap_cons_some cut, ih, List.map_cons]
  | stray _ unsigned _ ih =>
    rw [List.map_cons, List.filterMap_cons_none (Text.splitFirst_eq_none_iff.mpr unsigned), ih]

/-- Question marks in front of a query are no part of what it asks for, as long as no name begins with one. -/
theorem exists_trimmed (asks : Asks items pairs)
    (first : ∀ pair ∈ pairs.head?, pair.1.toList.head? ≠ some '?') :
    ∃ trimmed, trimmed ≠ [] ∧ Asks trimmed pairs ∧
      ("&".intercalate items).toList.dropWhile (· = '?') = ['&'].intercalate (trimmed.map String.toList) := by
  have joined : ("&".intercalate items).toList = ['&'].intercalate (items.map String.toList) :=
    String.toList_intercalate
  rw [joined]
  cases asks with
  | nothing =>
    -- an empty text is cut into one item, which is empty
    exact ⟨[""], by simp, .stray (by simp) (by simp) .nothing, rfl⟩
  | @pair key value items pairs key_whole key_ends value_whole more =>
    refine ⟨_, List.cons_ne_nil _ _, .pair key_whole key_ends value_whole more, ?_⟩
    have unmarked : (key ++ "=" ++ value).toList.dropWhile (· = '?') = (key ++ "=" ++ value).toList := by
      have opening := first _ rfl
      rw [String.toList_append, String.toList_append]
      cases letters : key.toList with
      | nil => rfl
      | cons c rest =>
        refine List.dropWhile_cons_of_neg ?_
        simpa [letters] using opening
    rw [List.map_cons, dropWhile_intercalate (by decide), unmarked]
  | @stray item items pairs whole unsigned more =>
    let rest := String.ofList (item.toList.dropWhile (· = '?'))
    have kept : rest.toList = item.toList.dropWhile (· = '?') := String.toList_ofList
    refine ⟨rest :: items, List.cons_ne_nil _ _, .stray ?_ ?_ more, ?_⟩
    · rw [kept]
      exact fun held => whole (List.dropWhile_subset _ held)
    · rw [kept]
      exact fun held => unsigned (List.dropWhile_subset _ held)
    · rw [List.map_cons, List.map_cons, kept, dropWhile_intercalate (by decide)]

/-- A query that is put together from items is cut back into what they ask for. -/
theorem read (asks : Asks items pairs)
    (first : ∀ pair ∈ pairs.head?, pair.1.toList.head? ≠ some '?') :
    (Text.splitAll '&' (("&".intercalate items).toList.dropWhile (· = '?'))).filterMap (Text.splitFirst '=') =
      pairs.map fun pair => (pair.1.toList, pair.2.toList) := by
  obtain ⟨trimmed, some_item, same, text⟩ := asks.exists_trimmed first
  have pieces : Text.splitAll '&' (("&".intercalate items).toList.dropWhile (· = '?')) =
      trimmed.map String.toList := by
    refine Text.splitAll_eq_iff.mpr ⟨by simpa using some_item, ?_, text⟩
    intro piece held
    obtain ⟨item, among, rfl⟩ := List.mem_map.mp held
    exact same.whole item among
  rw [pieces, same.filterMap_splitFirst]

end Asks

theorem find?_toList_eq_lookup (pairs : List (String × String)) (name : String) :
    (((pairs.map fun pair => (pair.1.toList, pair.2.toList)).find? fun (key, _) => key = name.toList).map
      fun (_, value) => String.ofList value) = pairs.lookup name := by
  induction pairs with
  | nil => rfl
  | cons pair pairs ih =>
    obtain ⟨key, value⟩ := pair
    rw [List.map_cons, List.lookup_cons]
    by_cases same : key = name
    · subst same
      simp
    · have other : (name == key) = false := beq_false_of_ne (Ne.symm same)
      rw [List.find?_cons_of_neg (by simpa [String.toList_inj] using same), ih, other]

namespace TargetUri

variable {text : String} {uri : TargetUri}

/-- The query stands behind the first question mark behind the credentials. -/
theorem Written.exists_query {scheme : List Char} {l : Layout} (h : Written text uri scheme l) :
    ∃ address mark, text = uri.lead ++ address ++ mark ++ uri.query ∧ '?' ∉ address.toList ∧
      (mark = "?" ∨ mark = "" ∧ uri.query = "") := by
  have whole : text.toList = uri.lead.toList ++ uri.authority.toList ++ (l.path ++ l.query) := by
    rw [← h.raw, TargetUri.raw, String.toList_append, String.toList_append, h.tail]
  have query : uri.query.toList = l.query.drop 1 := by
    rw [h.means]
    exact String.toList_ofList
  have unmarked : '?' ∉ (uri.authority ++ String.ofList l.path).toList := by
    rw [String.toList_append, h.authority, String.toList_ofList]
    simp [h.sound.authority_query, h.sound.path_query]
  rcases h.sound.query with none | ⟨asked, opened⟩
  · rw [none] at whole query
    have nothing : uri.query = "" := String.toList_inj.mp query
    refine ⟨_, "", ?_, unmarked, .inr ⟨rfl, nothing⟩⟩
    rw [← String.toList_inj, whole, nothing]
    simp
  · rw [opened] at whole query
    refine ⟨_, "?", ?_, unmarked, .inl rfl⟩
    rw [← String.toList_inj, whole]
    simp [query]

/-- What an accepted URI asks for under a name is the value of the first pair with that name among the items behind
its question mark, and nothing if there is no such pair. So the policy that it asks for is that of its first
`sslmode`. -/
theorem queryParam_lookup (read : parse text = .ok uri) {items : List String} {pairs : List (String × String)}
    (asks : Asks items pairs) (first : ∀ pair ∈ pairs.head?, pair.1.toList.head? ≠ some '?')
    (query : uri.query = "&".intercalate items) :
    (∃ address mark, text = uri.lead ++ address ++ mark ++ "&".intercalate items ∧ '?' ∉ address.toList ∧
        (mark = "?" ∨ mark = "" ∧ "&".intercalate items = "")) ∧
      (∀ name, uri.queryParam name = pairs.lookup name) ∧
      uri.sslMode = (pairs.lookup "sslmode").elim (.ok none) fun word => (SslMode.read word).map some := by
  obtain ⟨scheme, l, written⟩ := parse_eq_ok_iff.mp read
  have found (name : String) : uri.queryParam name = pairs.lookup name := by
    unfold queryParam
    dsimp only
    rw [query, asks.read first]
    exact find?_toList_eq_lookup pairs name
  refine ⟨query ▸ written.exists_query, found, ?_⟩
  rw [sslMode, found]
  cases pairs.lookup "sslmode" <;> rfl

/-- A value holds the marks that divide a URI, items without a sign and without anything stand between the pairs, and
the policy is asked for twice. -/
theorem queryParam_lookup_first :
    ∃ uri, parse "postgres://db/x?a==b@/?c&&sslmode&sslmode=require&sslmode=disable&=" = .ok uri ∧
      uri.queryParam "a" = some "=b@/?c" ∧ uri.queryParam "" = some "" ∧ uri.queryParam "c" = none ∧
      uri.queryParam "sslmode" = some "require" ∧ uri.sslMode = .ok (some .required) := by
  have read : parse "postgres://db/x?a==b@/?c&&sslmode&sslmode=require&sslmode=disable&=" = .ok
      { lead := "postgres://", authority := "db"
        tail := "/x?a==b@/?c&&sslmode&sslmode=require&sslmode=disable&=", dialect := .postgres, user := none
        password := none, host := "db", port := none, database := some "x"
        query := "a==b@/?c&&sslmode&sslmode=require&sslmode=disable&=" } := by cbv
  have asks : Asks ["a" ++ "=" ++ "=b@/?c", "", "sslmode", "sslmode" ++ "=" ++ "require",
      "sslmode" ++ "=" ++ "disable", "" ++ "=" ++ ""]
      [("a", "=b@/?c"), ("sslmode", "require"), ("sslmode", "disable"), ("", "")] := by
    refine .pair ?_ ?_ ?_ (.stray ?_ ?_ (.stray ?_ ?_ (.pair ?_ ?_ ?_ (.pair ?_ ?_ ?_ (.pair ?_ ?_ ?_ .nothing)))))
    all_goals decide +kernel
  obtain ⟨-, found, policy⟩ := queryParam_lookup read asks (by decide +kernel) (by decide +kernel)
  refine ⟨_, read, found "a", found "", found "c", found "sslmode", policy.trans ?_⟩
  decide +kernel

end TargetUri
end Passage
