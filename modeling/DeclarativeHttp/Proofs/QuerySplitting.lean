import DeclarativeHttp.Proofs.QueryLine

/-!
# Splitting a query off a URI

The pieces of a query are kept in groups, one for each name. A piece with a value adds to its group;
a piece without one only makes sure that there is a group, and is seen again as long as the group
stays empty. So what is lost are the pieces without a value that share their name with another
piece, and nothing else (`setUri_pieces`).
-/

namespace DeclarativeHttp

namespace Multimap

variable {α κ : Type} [DecidableEq κ]

theorem get?_foldl_extend (key : String → κ) (pairs : Multimap α) (n : String) (m : Multimap α) :
    get? key n (pairs.foldl (fun (m : Multimap α) p => extend key p.1 p.2 m) m) =
      let named := pairs.filter fun p => key p.1 = key n
      if named = [] then get? key n m else some ((get? key n m).getD [] ++ named.flatMap Prod.snd) := by
  induction pairs generalizing m with
  | nil => rfl
  | cons p pairs ih =>
    rw [List.foldl_cons, ih]
    by_cases hp : key p.1 = key n
    · have hself : get? key n (extend key p.1 p.2 m) = some ((get? key n m).getD [] ++ p.2) :=
        get?_extend_self hp.symm
      by_cases hnone : pairs.filter (fun p => key p.1 = key n) = []
      · simp [hp, hnone, hself]
      · simp [hp, hnone, hself, List.append_assoc]
    · have hother : get? key n (extend key p.1 p.2 m) = get? key n m :=
        get?_extend_other (Ne.symm hp)
      rw [List.filter_cons_of_neg (by simpa using hp), hother]

end Multimap

theorem perm_of_filter_key {α κ : Type} [DecidableEq α] [DecidableEq κ] (key : α → κ)
    {l l' : List α} (h : ∀ k, l.filter (fun a => key a = k) = l'.filter (fun a => key a = k)) :
    l.Perm l' := by
  apply List.perm_iff_count.mpr
  intro a
  have hcount := congrArg (List.count a) (h (key a))
  rwa [List.count_filter (by simp), List.count_filter (by simp)] at hcount

namespace RequestTemplate

/-! ## Pieces of a query -/

def pieceName (piece : List Char) : List Char := piece.takeWhile (· != '=')

/-- The pieces of a query that are seen again under
a name: those with a value, or else one of them. -/
def surviving (name : List Char) (given : List (List Char)) : List (List Char) :=
  let named := given.filter fun p => pieceName p = name
  let valued := named.filter fun p => '=' ∈ p
  if valued = [] then named.take 1 else valued

/-- A piece without a value is the only one of its name. -/
def FlagsAlone (given : List (List Char)) : Prop :=
  ∀ flag ∈ given, '=' ∉ flag → (given.filter fun p => pieceName p = flag) = [flag]

instance (given : List (List Char)) : Decidable (FlagsAlone given) := List.decidableBAll _ _

variable {piece name : List Char} {given : List (List Char)}

theorem pieceName_of_not_mem (h : '=' ∉ piece) : pieceName piece = piece :=
  Text.takeWhile_ne_of_not_mem h

theorem pieceName_append (h : '=' ∉ name) (value : List Char) :
    pieceName (name ++ '=' :: value) = name :=
  Text.takeWhile_ne_append h value

theorem not_mem_pieceName (piece : List Char) : '=' ∉ pieceName piece := by
  intro h
  have hkept := List.mem_takeWhile_imp h
  simp at hkept

theorem flagsAlone_iff :
    FlagsAlone given ↔ ∀ name, surviving name given = given.filter fun p => pieceName p = name := by
  constructor
  · intro halone name
    unfold surviving
    by_cases hflag : ∃ p ∈ given.filter (fun p => pieceName p = name), '=' ∉ p
    · obtain ⟨p, hp, hvalue⟩ := hflag
      obtain ⟨hmem, hname⟩ := List.mem_filter.mp hp
      have hself : p = name := by simpa [pieceName_of_not_mem hvalue] using hname
      subst hself
      simp [halone p hmem hvalue, hvalue]
    · have hall : (given.filter fun p => pieceName p = name).filter (fun p => '=' ∈ p) =
          given.filter fun p => pieceName p = name := by
        apply List.filter_eq_self.mpr
        intro p hp
        by_contra hvalue
        exact hflag ⟨p, hp, by simpa using hvalue⟩
      simp only [hall]
      split
      · rename_i hnone
        rw [hnone]
        rfl
      · rfl
  · intro hsame flag hmem hvalue
    have hname : flag ∈ given.filter fun p => pieceName p = flag := by
      simp [hmem, pieceName_of_not_mem hvalue]
    have hkept := hsame flag
    unfold surviving at hkept
    dsimp only at hkept
    split at hkept
    · -- one piece is all that is left, so there is but one
      cases hnamed : given.filter fun p => pieceName p = flag with
      | nil =>
        rw [hnamed] at hname
        cases hname
      | cons p ps =>
        rw [hnamed] at hkept hname
        have hps : ps = [] := by simpa using hkept.symm
        subst hps
        rw [List.mem_singleton.mp hname]
    · rw [← hkept] at hname
      exact absurd (by simpa using (List.mem_filter.mp hname).2) hvalue

theorem mem_of_mem_surviving (h : piece ∈ surviving name given) : piece ∈ given := by
  unfold surviving at h
  dsimp only at h
  split at h
  · exact (List.mem_filter.mp (List.mem_of_mem_take h)).1
  · exact (List.mem_filter.mp (List.mem_filter.mp h).1).1

/-! ## Groups of pieces -/

def groupPieces (group : String × List Template) : List (List Char) :=
  if group.2.isEmpty then [group.1.toList] else group.2.map fun v => group.1.toList ++ '=' :: v.chars

theorem queryPieces_eq (t : RequestTemplate) : t.queryPieces = t.queries.flatMap groupPieces := rfl

theorem pieceName_of_mem_groupPieces {group : String × List Template} (hname : '=' ∉ group.1.toList)
    (h : piece ∈ groupPieces group) : pieceName piece = group.1.toList := by
  unfold groupPieces at h
  split at h
  · rw [List.mem_singleton.mp h]
    exact pieceName_of_not_mem hname
  · obtain ⟨v, -, rfl⟩ := List.mem_map.mp h
    exact pieceName_append hname _

theorem filter_groupPieces {groups : Multimap Template} (hdistinct : groups.Distinct id)
    (hnames : ∀ g ∈ groups, '=' ∉ g.1.toList) (n : String) :
    (groups.flatMap groupPieces).filter (fun p => pieceName p = n.toList) =
      ((groups.get? id n).map fun values => groupPieces (n, values)).getD [] := by
  induction groups with
  | nil => rfl
  | cons g groups ih =>
    obtain ⟨hg, hrest⟩ := List.nodup_cons.mp hdistinct
    obtain ⟨hname, hnames⟩ := List.forall_mem_cons.mp hnames
    rw [List.flatMap_cons, List.filter_append, ih hrest hnames, Multimap.get?]
    by_cases hn : g.1 = n
    · subst hn
      have hall : (groupPieces g).filter (fun p => pieceName p = g.1.toList) = groupPieces g := by
        apply List.filter_eq_self.mpr
        intro p hp
        simp [pieceName_of_mem_groupPieces hname hp]
      have hnone : Multimap.get? id g.1 groups = none := Multimap.get?_eq_none_of_not_mem hg
      rw [if_pos rfl, hall, hnone]
      simp
    · have hno : (groupPieces g).filter (fun p => pieceName p = n.toList) = [] := by
        apply List.filter_eq_nil_iff.mpr
        intro p hp
        simp [pieceName_of_mem_groupPieces hname hp, String.toList_inj, hn]
      have hne : id g.1 ≠ id n := hn
      rw [if_neg hne, hno, List.nil_append]

/-! ## Grouping -/

theorem readParam_name (piece : List Char) :
    (readParam piece).1 = String.ofList (pieceName piece) := by
  unfold readParam
  cases hsplit : Text.splitFirst '=' piece with
  | none => rw [pieceName_of_not_mem (Text.not_mem_of_splitFirst_none hsplit)]
  | some q =>
    obtain ⟨n, v⟩ := q
    rw [Text.splitFirst_eq hsplit, pieceName_append (Text.not_mem_of_splitFirst hsplit)]

/-- A piece without placeholders is written as it was given, unless it has no value. -/
theorem readParam_values (hbrace : '\x7b' ∉ piece) :
    (readParam piece).2.map (fun v => pieceName piece ++ '=' :: v.chars) = if '=' ∈ piece then [piece] else [] := by
  unfold readParam
  cases hsplit : Text.splitFirst '=' piece with
  | none => simp [Text.not_mem_of_splitFirst_none hsplit]
  | some q =>
    obtain ⟨n, v⟩ := q
    have heq := Text.splitFirst_eq hsplit
    have hvalue : '\x7b' ∉ v := by
      intro h
      rw [heq] at hbrace
      exact hbrace (by simp [h])
    rw [heq, pieceName_append (Text.not_mem_of_splitFirst hsplit)]
    simp [Template.parse_of_not_mem hvalue]

theorem groupPieces_readParams {named : List (List Char)} (hnames : ∀ p ∈ named, pieceName p = name)
    (hbraces : ∀ p ∈ named, '\x7b' ∉ p) (hne : named ≠ []) :
    groupPieces (String.ofList name, (named.map readParam).flatMap Prod.snd) =
      if (named.filter fun p => '=' ∈ p) = [] then named.take 1 else named.filter fun p => '=' ∈ p := by
  have hvalued : ((named.map readParam).flatMap Prod.snd).map (fun v => name ++ '=' :: v.chars) =
      named.filter fun p => '=' ∈ p := by
    clear hne
    induction named with
    | nil => rfl
    | cons p named ih =>
      obtain ⟨hname, hnames⟩ := List.forall_mem_cons.mp hnames
      obtain ⟨hbrace, hbraces⟩ := List.forall_mem_cons.mp hbraces
      have hp := readParam_values hbrace
      rw [hname] at hp
      rw [List.map_cons, List.flatMap_cons, List.map_append, hp, ih hnames hbraces, List.filter_cons]
      by_cases hvalue : '=' ∈ p <;> simp [hvalue]
  unfold groupPieces
  rw [String.toList_ofList, hvalued]
  by_cases hflags : (named.filter fun p => '=' ∈ p) = []
  · have hnone : (named.map readParam).flatMap Prod.snd = [] := by
      rw [hflags] at hvalued
      exact List.map_eq_nil_iff.mp hvalued
    rw [hnone, if_pos hflags]
    cases named with
    | nil => exact absurd rfl hne
    | cons p named =>
      have hvalue : '=' ∉ p := by simpa using List.filter_eq_nil_iff.mp hflags p (by simp)
      simp [← hnames p (by simp), pieceName_of_not_mem hvalue]
  · have hsome : ((named.map readParam).flatMap Prod.snd).isEmpty = false := by
      rw [List.isEmpty_eq_false_iff]
      intro hnone
      rw [hnone] at hvalued
      exact hflags hvalued.symm
    rw [hsome, if_neg hflags]
    rfl

theorem groups_addQueryLine (line : List Char) :
    (empty.addQueryLine line).queries.Distinct id ∧
      ∀ g ∈ (empty.addQueryLine line).queries, '=' ∉ g.1.toList := by
  have hnames : ∀ n ∈ (empty.addQueryLine line).queries.map Prod.fst, '=' ∉ n.toList := by
    rw [addQueryLine_queries]
    refine List.foldlRecOn (motive := fun (qs : Multimap Template) => ∀ n ∈ qs.map Prod.fst,
      '=' ∉ n.toList) _ _
      (by simp [empty]) fun qs hqs p _ n hn => ?_
    rcases (Multimap.mem_names_extend _ _ qs).mp hn with hn | rfl
    · exact hqs n hn
    · rw [readParam_name, String.toList_ofList]
      exact not_mem_pieceName p
  constructor
  · rw [addQueryLine_queries]
    exact List.foldlRecOn (motive := fun (qs : Multimap Template) => qs.Distinct id) _ _ List.nodup_nil
      fun qs hqs p _ => hqs.extend _ _
  · intro g hg
    exact hnames g.1 (List.mem_map_of_mem hg)

/-- The pieces of a query line that was read into an empty template, name by name. -/
theorem filter_queryPieces {line : List Char} (hbrace : '\x7b' ∉ line) (name : List Char) :
    (empty.addQueryLine line).queryPieces.filter (fun p => pieceName p = name) =
      surviving name (queryPairs line) := by
  obtain ⟨hdistinct, hnames⟩ := groups_addQueryLine line
  have hget := Multimap.get?_foldl_extend id ((queryPairs line).map readParam) (String.ofList name) []
  have hnamed : ((queryPairs line).map readParam).filter (fun p => id p.1 = id (String.ofList name)) =
      ((queryPairs line).filter fun p => pieceName p = name).map readParam := by
    rw [List.filter_map]
    refine congrArg _ (List.filter_congr fun p _ => ?_)
    simp [readParam_name, String.ofList_inj]
  rw [hnamed, List.foldl_map] at hget
  have hgroup := filter_groupPieces hdistinct hnames (String.ofList name)
  rw [String.toList_ofList] at hgroup
  rw [queryPieces_eq, hgroup, addQueryLine_queries]
  show (Option.map _ (Multimap.get? id (String.ofList name) (List.foldl _ [] _))).getD [] = _
  rw [hget]
  unfold surviving
  by_cases hnone : ((queryPairs line).filter fun p => pieceName p = name) = []
  · simp [hnone, Multimap.get?]
  · have hnames' : ∀ p ∈ (queryPairs line).filter (fun p => pieceName p = name),
        pieceName p = name := by
      intro p hp
      simpa using (List.mem_filter.mp hp).2
    have hbraces : ∀ p ∈ (queryPairs line).filter (fun p => pieceName p = name), '\x7b' ∉ p := by
      intro p hp h
      have hpiece := (List.mem_filter.mp (List.mem_filter.mp hp).1).1
      exact hbrace (Text.mem_of_mem_splitOn hpiece h)
    simpa [hnone, Multimap.get?] using groupPieces_readParams hnames' hbraces hnone

theorem pieces_queryLine {line : List Char} (hbrace : '\x7b' ∉ line) :
    pieces (empty.addQueryLine line).queryLine = (empty.addQueryLine line).queryPieces := by
  apply pieces_intercalate
  intro p hp
  have hkept : p ∈ (empty.addQueryLine line).queryPieces.filter fun q => pieceName q =
      pieceName p := by simp [hp]
  rw [filter_queryPieces hbrace] at hkept
  have hgiven := List.mem_filter.mp (mem_of_mem_surviving hkept)
  exact ⟨Text.not_mem_of_mem_splitOn hgiven.1, by simpa using hgiven.2⟩

/-! ## URIs -/

def behindQuestion (u : List Char) : List Char := (u.dropWhile (· != '?')).tail

def uriPieces (u : List Char) : List (List Char) := queryPairs (behindQuestion u)

theorem splitQuery_snd (u : List Char) : (splitQuery u).2.getD [] = behindQuestion u := by
  unfold splitQuery behindQuestion
  cases hsplit : Text.splitFirst '?' u with
  | none =>
    have hall : u.dropWhile (· != '?') = [] := by
      apply List.dropWhile_eq_nil_iff.mpr
      intro c hc
      have hne : c ≠ '?' := fun h => Text.not_mem_of_splitFirst_none hsplit (h ▸ hc)
      simpa using hne
    rw [hall]
    rfl
  | some q =>
    obtain ⟨before, after⟩ := q
    have hfront : ∀ c ∈ before, (c != '?') = true := by
      intro c hc
      have hne : c ≠ '?' := fun h => Text.not_mem_of_splitFirst hsplit (h ▸ hc)
      simpa using hne
    rw [Text.splitFirst_eq hsplit, List.dropWhile_append_of_pos hfront, List.dropWhile_cons_of_neg (by simp)]
    rfl

/-- A URI is cut at its question mark, whether its base is taken off before that or not. -/
theorem splitQuery_splitBase (u : List Char) :
    (splitBase u).1.getD [] ++ (splitQuery (splitBase u).2).1 = (splitQuery u).1 ∧
    (splitQuery (splitBase u).2).2 = (splitQuery u).2 := by
  obtain ⟨hbase, hquestion⟩ := splitBase_eq u
  have hsplit := splitQuery_append_left hquestion (splitBase u).2
  rw [hbase] at hsplit
  rw [hsplit]
  exact ⟨rfl, rfl⟩

/-- Of a URI without braces the text before the question mark is kept as target and path. Of the
pieces of its query, those with a value are kept, in their order under each name, and one without a
value is kept if its name has no value. So no piece is lost, and no order among pieces of one name,
just if each piece without a value is the only one of its name. -/
theorem setUri_pieces {u : List Char} (hu : '\x7b' ∉ u) :
    (empty.setUri u).target.getD [] ++ (empty.setUri u).path = u.takeWhile (· != '?') ∧
      (∀ name, (pieces (empty.setUri u).queryLine).filter (fun p => pieceName p = name) =
        surviving name (uriPieces u)) ∧
      ((pieces (empty.setUri u).queryLine).Perm (uriPieces u) ∧
        (∀ name, (pieces (empty.setUri u).queryLine).filter (fun p => pieceName p = name) =
          (uriPieces u).filter fun p => pieceName p = name) ↔ FlagsAlone (uriPieces u)) := by
  obtain ⟨hfront, hbehind⟩ := splitQuery_splitBase u
  have hline : '\x7b' ∉ behindQuestion u := by
    intro h
    exact hu ((List.dropWhile_sublist _).mem (List.mem_of_mem_tail h))
  have hqueries : (empty.setUri u).queries = (empty.addQueryLine (behindQuestion u)).queries := by
    rw [setUri_queries, hbehind, ← splitQuery_snd]
    cases (splitQuery u).2 <;> rfl
  have hpieces : (empty.setUri u).queryPieces = (empty.addQueryLine (behindQuestion u)).queryPieces := by
    rw [queryPieces_eq, queryPieces_eq, hqueries]
  have hnamed : ∀ name, (pieces (empty.setUri u).queryLine).filter (fun p => pieceName p = name) =
      surviving name (uriPieces u) := by
    intro name
    rw [queryLine, hpieces]
    exact (congrArg _ (pieces_queryLine hline)).trans (filter_queryPieces hline name)
  refine ⟨?_, hnamed, ?_⟩
  · have hpath : '\x7b' ∉ (splitQuery (splitBase u).2).1 := by
      intro h
      have hmem : '\x7b' ∈ (splitQuery u).1 := hfront ▸ List.mem_append_right _ h
      rw [splitQuery_fst] at hmem
      exact hu ((List.takeWhile_sublist _).mem hmem)
    rw [← splitQuery_fst, ← hfront, path, setUri_target, setUri_uri, Template.parse_of_not_mem hpath,
      Template.chars_literal]
  · rw [flagsAlone_iff]
    constructor
    · rintro ⟨-, hsame⟩ name
      rw [← hnamed, hsame]
    · intro hsame
      have hall : ∀ name, (pieces (empty.setUri u).queryLine).filter (fun p => pieceName p = name) =
          (uriPieces u).filter fun p => pieceName p = name := by
        intro name
        rw [hnamed, hsame]
      exact ⟨perm_of_filter_key pieceName hall, hall⟩

/-- A flag, repeated names, an empty name and an empty value are all told apart. -/
theorem setUri_pieces_search :
    let u := "https://api.example?q=b&&verbose&q=a=b&=&=x&q=".toList
    let t := empty.setUri u
    '\x7b' ∉ u ∧ FlagsAlone (uriPieces u) ∧
    t.target.getD [] ++ t.path = "https://api.example".toList ∧
      (pieces t.queryLine).Perm (uriPieces u) ∧
      t.queryLine = "q=b&q=a=b&q=&verbose&=&=x".toList := by
  intro u t
  have hbrace : '\x7b' ∉ u := by decide
  have halone : FlagsAlone (uriPieces u) := by decide +kernel
  obtain ⟨hpath, -, hiff⟩ := setUri_pieces hbrace
  exact ⟨hbrace, halone, hpath, (hiff.mpr halone).1, by decide +kernel⟩

/-- A flag is lost when its name has a value as well, and so is the second of two flags. -/
theorem setUri_pieces_lost :
    let u := "/items?a&a=1&b&b".toList
    let t := empty.setUri u
    '\x7b' ∉ u ∧ uriPieces u = ["a".toList, "a=1".toList, "b".toList, "b".toList] ∧
      pieces t.queryLine = ["a=1".toList, "b".toList] ∧
      ¬ (pieces t.queryLine).Perm (uriPieces u) := by
  intro u t
  have hgiven : uriPieces u = ["a".toList, "a=1".toList, "b".toList, "b".toList] := by
    decide +kernel
  have hleft : pieces t.queryLine = ["a=1".toList, "b".toList] := by decide +kernel
  refine ⟨by decide, hgiven, hleft, fun hperm => ?_⟩
  have hlength := hperm.length_eq
  rw [hgiven, hleft] at hlength
  cases hlength

end RequestTemplate

end DeclarativeHttp
