/-
Paths of files in a directory.

A path to a directory may be written in many ways. The path of a file below it,
the parent of that path and the temporary sibling are made by cutting the text and
putting texts together; here the pieces of all of them are compared. What is cut
off is slashes and dots only, so all three go through the same directory.
-/
import Replica.Disk.Route

namespace Replica

/-! ## The text of a path -/

namespace Path

/-- A name of a file: no slash in it, and not one of the names that are dots. -/
def IsPlain (name : List Char) : Prop :=
  '/' ∉ name ∧ name ≠ [] ∧ name ≠ ['.'] ∧ name ≠ ['.', '.']

instance (name : List Char) : Decidable (IsPlain name) := by
  unfold IsPlain
  infer_instance

theorem pieces_of_no_slash {name : List Char} (h : '/' ∉ name) (start : Nat) (piece : List Char) :
    pieces start piece name = [⟨piece.reverse ++ name, start + name.length⟩] := by
  induction name generalizing start piece with
  | nil => simp [pieces]
  | cons c cs ih =>
    have hc : c ≠ '/' := fun hc => h (by simp [hc])
    have hcs : '/' ∉ cs := fun hcs => h (List.mem_cons_of_mem _ hcs)
    rw [pieces, if_neg hc, ih hcs]
    simp [Nat.add_assoc, Nat.add_comm 1]

theorem pieces_append (name : List Char) (h : '/' ∉ name) (text : List Char) (start : Nat)
    (piece : List Char) :
    pieces start piece (text ++ '/' :: name) =
      pieces start piece text ++ [⟨name, start + text.length + 1 + name.length⟩] := by
  induction text generalizing start piece with
  | nil => simp [pieces, pieces_of_no_slash h]
  | cons c cs ih =>
    have hlen : start + 1 + cs.length = start + (cs.length + 1) := by omega
    rw [List.cons_append, pieces, pieces]
    split
    · rw [ih, List.cons_append, List.length_cons, hlen]
    · rw [ih, List.length_cons, hlen]

theorem pieces_ne_nil (start : Nat) (piece text : List Char) : pieces start piece text ≠ [] := by
  induction text generalizing start piece with
  | nil => simp [pieces]
  | cons c cs ih =>
    rw [pieces]
    split
    · simp
    · exact ih _ _

theorem start_le_stop {start : Nat} {piece text : List Char} {c : Component}
    (h : c ∈ pieces start piece text) : start ≤ c.stop ∧ c.stop ≤ start + text.length := by
  induction text generalizing start piece with
  | nil =>
    rw [pieces, List.mem_singleton] at h
    subst h
    exact ⟨Nat.le_refl _, Nat.le_refl _⟩
  | cons d ds ih =>
    rw [List.length_cons]
    rw [pieces] at h
    split at h
    · rcases List.mem_cons.1 h with rfl | h
      · dsimp only
        omega
      · have := ih h
        omega
    · have := ih h
      omega

theorem pieces_take {start : Nat} {piece text : List Char} {before after : List Component}
    {c : Component} (h : pieces start piece text = before ++ c :: after) :
    pieces start piece (text.take (c.stop - start)) = before ++ [c] := by
  induction text generalizing start piece before with
  | nil =>
    rw [pieces] at h
    rw [List.take_nil, pieces]
    cases before with
    | nil =>
      cases h
      rfl
    | cons => simp at h
  | cons d ds ih =>
    have hmem : c ∈ pieces start piece (d :: ds) := by simp [h]
    rw [pieces] at h hmem
    split at h
    · rename_i hd
      cases before with
      | nil =>
        cases h
        rw [Nat.sub_self, List.take_zero, pieces]
        rfl
      | cons b before =>
        rw [List.cons_append, List.cons.injEq] at h
        obtain ⟨rfl, h⟩ := h
        have hle := (start_le_stop (show c ∈ pieces (start + 1) [] ds by simp [h])).1
        have hstop : c.stop - start = (c.stop - (start + 1)) + 1 := by omega
        rw [hstop, List.take_succ_cons, pieces, if_pos hd, ih h, List.cons_append]
    · rename_i hd
      rw [if_neg hd] at hmem
      have hle := (start_le_stop hmem).1
      have hstop : c.stop - start = (c.stop - (start + 1)) + 1 := by omega
      rw [hstop, List.take_succ_cons, pieces, if_neg hd, ih h]

theorem exists_of_filter_reverse {α : Type} {p : α → Bool} {as : List α} {a : α} {rest : List α}
    (h : (as.filter p).reverse = a :: rest) :
    ∃ before after, as = before ++ a :: after ∧ p a = true ∧ ∀ b ∈ after, p b = false := by
  rw [← List.filter_reverse, List.filter_eq_cons_iff] at h
  obtain ⟨after, before, hsplit, hnone, hp, -⟩ := h
  refine ⟨before.reverse, after.reverse, ?_, hp, ?_⟩
  · rw [← List.reverse_reverse as, hsplit]
    simp
  · intro b hb
    simpa using hnone b (List.mem_reverse.1 hb)

theorem components_append {name : List Char} (h : IsPlain name) (text : List Char) :
    components (text ++ '/' :: name) =
      components text ++ [⟨name, text.length + 1 + name.length⟩] := by
  obtain ⟨hslash, hne, hdot, -⟩ := h
  have hcounts : counts false name = true := by simp [counts, hne, hdot]
  rw [components, components, pieces_append _ hslash]
  cases hpieces : pieces 0 [] text with
  | nil => exact absurd hpieces (pieces_ne_nil _ _ _)
  | cons first rest =>
    have hfirst : counts (!isAbsolute (text ++ '/' :: name)) first.name =
        counts (!isAbsolute text) first.name := by
      cases text with
      | nil =>
        rw [pieces] at hpieces
        cases hpieces
        rfl
      | cons => rfl
    simp only [List.cons_append, List.filter_append, hfirst, List.filter_cons, hcounts,
      List.filter_nil, Nat.zero_add, if_true]
    split <;> rfl

/-- The last component of a text, and the pieces around it. -/
theorem exists_of_components {text : List Char} {c : Component} {rest : List Component}
    (h : (components text).reverse = c :: rest) :
    ∃ before after, pieces 0 [] text = before ++ c :: after ∧ c.name ≠ [] ∧
      ∀ d ∈ after, counts false d.name = false := by
  have hne {first : Bool} {name : List Char} (hcounts : counts first name = true) : name ≠ [] := by
    rintro rfl
    cases hcounts
  rw [components] at h
  split at h
  · cases h
  · rename_i first others hpieces
    dsimp only at h
    rw [hpieces]
    cases hothers : (others.filter fun c => counts false c.name).reverse with
    | cons d ds =>
      obtain ⟨before, after, rfl, hd, hafter⟩ := exists_of_filter_reverse hothers
      have hsame : d = c := by
        split at h
        · rw [List.reverse_cons, hothers] at h
          exact (List.cons.inj h).1
        · rw [hothers] at h
          exact (List.cons.inj h).1
      subst hsame
      exact ⟨first :: before, after, rfl, hne hd, hafter⟩
    | nil =>
      split at h
      · rename_i hfirst
        rw [List.reverse_cons, hothers] at h
        cases h
        refine ⟨[], others, rfl, hne hfirst, ?_⟩
        intro d hd
        have hnil := List.reverse_eq_nil_iff.1 hothers
        simpa using List.filter_eq_nil_iff.1 hnil d hd
      · rw [hothers] at h
        cases h

theorem components_ne_nil {text : List Char} (hne : text ≠ []) (h : isAbsolute text = false) :
    components text ≠ [] := by
  have hfirst {start : Nat} {c : Char} {piece rest : List Char} {d : Component}
      {ds : List Component} (hpieces : pieces start (c :: piece) rest = d :: ds) : d.name ≠ [] := by
    induction rest generalizing start c piece with
    | nil =>
      cases hpieces
      simp
    | cons e es ih =>
      rw [pieces] at hpieces
      split at hpieces
      · cases hpieces
        simp
      · exact ih hpieces
  cases text with
  | nil => exact absurd rfl hne
  | cons c cs =>
    have hc : c ≠ '/' := by
      rintro rfl
      cases h
    rw [components]
    cases hpieces : pieces 0 [] (c :: cs) with
    | nil => exact absurd hpieces (pieces_ne_nil _ _ _)
    | cons d ds =>
      rw [pieces, if_neg hc] at hpieces
      have hcounts : counts true d.name = true := by simp [counts, hfirst hpieces]
      simp [h, hcounts]

end Path

/-! ## Pieces -/

namespace Route

/-- Every piece of a path. -/
def pieces (text : List Char) : List Piece :=
  (((Path.pieces 0 [] text).map (·.name)).filter (· ≠ [])).map Piece.ofText

theorem ofText_of_plain {name : List Char} (h : Path.IsPlain name) :
    Piece.ofText name = .name (String.ofList name) := by
  obtain ⟨-, -, hdot, hdots⟩ := h
  rw [Piece.ofText, if_neg hdot, if_neg hdots]

theorem pieces_slash (text : List Char) : pieces (text ++ ['/']) = pieces text := by
  rw [pieces, Path.pieces_append [] (by simp)]
  simp [pieces]

theorem ofText_append {name : List Char} (h : Path.IsPlain name) (text : List Char) :
    ofText (text ++ '/' :: name) =
      ⟨Path.isAbsolute (text ++ '/' :: name), pieces text, .name (String.ofList name) false⟩ := by
  have hne := h.2.1
  simp only [ofText, Path.pieces_append _ h.1, List.map_append, List.filter_append, List.map_cons,
    List.map_nil, List.filter_cons, List.filter_nil, hne, ne_eq, not_false_eq_true, decide_true,
    if_true, List.reverse_append, List.reverse_cons, List.reverse_nil, List.nil_append,
    List.singleton_append, List.reverse_reverse, List.getLast?_append, List.getLast?_singleton,
    Option.some_or, Option.some.injEq, decide_false, ofText_of_plain h]
  rfl

theorem ofText_plain {name : List Char} (h : Path.IsPlain name) :
    ofText name = ⟨Path.isAbsolute name, [], .name (String.ofList name) false⟩ := by
  have hne := h.2.1
  simp [ofText, Path.pieces_of_no_slash h.1, hne, ofText_of_plain h, Ending.ofPiece]

end Route

/-! ## Files in a directory -/

namespace Path

theorem isAbsolute_of_isPlain {name : List Char} (h : IsPlain name) : isAbsolute name = false := by
  cases name with
  | nil => rfl
  | cons c cs =>
    have hc : c ≠ '/' := fun hc => h.1 (by simp [hc])
    simp [isAbsolute, hc]

theorem join_eq {path name : String} (hpath : path ≠ "") (hname : IsPlain name.toList) :
    ∃ text, (join path name).toList = text ++ '/' :: name.toList ∧
      Route.pieces text = Route.pieces path.toList ∧
      isAbsolute (text ++ '/' :: name.toList) = isAbsolute path.toList := by
  have hempty : path.isEmpty = false := by simpa using hpath
  have hchars : path.toList ≠ [] := fun h => hpath (String.toList_eq_nil_iff.1 h)
  rw [join, isAbsolute_of_isPlain hname, hempty]
  simp only [Bool.or_self, Bool.false_eq_true, if_false]
  split
  · rename_i hlast
    obtain ⟨text, htext⟩ := List.getLast?_eq_some_iff.1 hlast
    refine ⟨text, by simp [String.toList_append, htext], ?_, ?_⟩
    · rw [htext, Route.pieces_slash]
    · rw [htext]
      cases text <;> rfl
  · refine ⟨path.toList, by simp [String.toList_append], rfl, ?_⟩
    cases hcase : path.toList with
    | nil => exact absurd hcase hchars
    | cons c cs => rfl

theorem stays_of_not_counts {cs : List Component} (h : ∀ c ∈ cs, counts false c.name = false) :
    ∃ n, ((cs.map (·.name)).filter (· ≠ [])).map Piece.ofText = List.replicate n .stay := by
  induction cs with
  | nil => exact ⟨0, rfl⟩
  | cons c cs ih =>
    obtain ⟨n, hn⟩ := ih fun d hd => h d (List.mem_cons_of_mem _ hd)
    have hc := h c (List.mem_cons_self ..)
    rw [List.map_cons, List.filter_cons]
    split
    · rename_i hne
      have hdot : c.name = ['.'] := by
        simpa [counts, of_decide_eq_true hne] using hc
      exact ⟨n + 1, by rw [List.map_cons, hn, hdot, List.replicate_succ]; rfl⟩
    · exact ⟨n, hn⟩

theorem stays_of_components_nil {text : List Char} (h : components text = []) :
    ∃ n, Route.pieces text = List.replicate n .stay := by
  refine stays_of_not_counts fun c hc => ?_
  have hweaken {first : Bool} {name : List Char} (hcounts : counts first name = false) :
      counts false name = false := by
    simp only [counts, Bool.and_eq_false_iff, Bool.or_eq_false_iff] at hcounts ⊢
    rcases hcounts with hcounts | ⟨hcounts, -⟩
    · exact .inl hcounts
    · exact .inr ⟨hcounts, trivial⟩
  rw [components] at h
  split at h
  · rename_i hpieces
    exact absurd hpieces (pieces_ne_nil _ _ _)
  · rename_i first rest hpieces
    rw [hpieces] at hc
    dsimp only at h
    split at h
    · cases h
    · rename_i hfirst
      rcases List.mem_cons.1 hc with rfl | hc
      · exact hweaken (by simpa using hfirst)
      · simpa using List.filter_eq_nil_iff.1 h c hc

theorem root_of_components_nil {text : List Char} (h : components text = []) (name : List Char) :
    ∃ rest, text ++ '/' :: name = '/' :: rest := by
  cases text with
  | nil => exact ⟨name, rfl⟩
  | cons c cs =>
    by_cases hc : c = '/'
    · exact ⟨cs ++ '/' :: name, by rw [hc]; rfl⟩
    · exact absurd h (components_ne_nil (by simp) (by simp [isAbsolute, hc]))

theorem take_stop_ne_nil {text : List Char} {before after : List Component} {c : Component}
    (hpieces : pieces 0 [] text = before ++ c :: after) (hne : c.name ≠ []) :
    text.take c.stop ≠ [] := by
  intro hnil
  have hcut := pieces_take hpieces
  rw [Nat.sub_zero, hnil, pieces] at hcut
  have hmem : c ∈ [(⟨[].reverse, 0⟩ : Component)] := by
    rw [hcut]
    simp
  rw [List.mem_singleton] at hmem
  exact hne (by rw [hmem]; rfl)

/-- **The parent** of a file leads where the text before the file's name leads. -/
theorem parent?_eq {path : String} {text name : List Char} (hpath : path.toList = text ++ '/' :: name)
    (hname : IsPlain name) :
    ∃ parent, parent? path = some parent ∧ parent ≠ "" ∧ parent.toList <+: path.toList ∧
      isAbsolute parent.toList = isAbsolute path.toList ∧
      ∃ n, Route.pieces text = Route.pieces parent.toList ++ List.replicate n .stay := by
  rw [parent?]
  dsimp only
  rw [hpath, components_append hname, List.reverse_append, List.reverse_cons, List.reverse_nil,
    List.nil_append, List.singleton_append, ← hpath]
  dsimp only
  cases hbefore : (components text).reverse with
  | nil =>
    -- Nothing in front of the name counts, so the parent is the root.
    have hnil := List.reverse_eq_nil_iff.1 hbefore
    obtain ⟨rest, hrest⟩ := root_of_components_nil hnil name
    rw [← hpath] at hrest
    have hroot : isAbsolute path.toList = true := by
      rw [hrest]
      rfl
    obtain ⟨n, hn⟩ := stays_of_components_nil hnil
    rw [hroot, if_pos rfl, hrest, List.take_succ_cons, List.take_zero]
    exact ⟨_, rfl, by decide, by simp, by simp [isAbsolute], n, by rw [hn]; rfl⟩
  | cons c rest =>
    obtain ⟨before, after, hpieces, hne, hafter⟩ := exists_of_components hbefore
    have hle := (start_le_stop (show c ∈ pieces 0 [] text by simp [hpieces])).2
    have htake : path.toList.take c.stop = text.take c.stop := by
      rw [hpath, List.take_append_of_le_length (by omega)]
    have hcut := pieces_take hpieces
    rw [Nat.sub_zero] at hcut
    obtain ⟨d, ds, hchars⟩ := List.exists_cons_of_ne_nil (take_stop_ne_nil hpieces hne)
    obtain ⟨n, hn⟩ := stays_of_not_counts hafter
    refine ⟨_, rfl, ?_, ?_, ?_, n, ?_⟩
    · rw [htake, hchars]
      intro h
      have := congrArg String.toList h
      simp at this
    · rw [String.toList_ofList]
      exact List.take_prefix _ _
    · rw [String.toList_ofList]
      have hprefix := List.take_prefix c.stop path.toList
      rw [htake, hchars] at hprefix ⊢
      obtain ⟨es, hes⟩ := hprefix
      rw [← hes]
      rfl
    · rw [String.toList_ofList, htake, Route.pieces, Route.pieces, hcut, hpieces]
      have hsplit : before ++ c :: after = (before ++ [c]) ++ after := by simp
      rw [hsplit, List.map_append, List.filter_append, List.map_append, hn]

theorem fileName?_eq {path : String} {text name : List Char} (hpath : path.toList = text ++ '/' :: name)
    (hname : IsPlain name) : fileName? path = some (String.ofList name) := by
  obtain ⟨-, -, hdot, hdots⟩ := id hname
  rw [fileName?, hpath, components_append hname, List.getLast?_append, List.getLast?_singleton,
    Option.some_or]
  simp [hdot, hdots]

/-- **The temporary sibling** of a file lies below its parent. -/
theorem temporary_eq {path parent : String} {text name : List Char}
    (hpath : path.toList = text ++ '/' :: name) (hname : IsPlain name)
    (hparent : parent? path = some parent) :
    temporary path = join parent (String.ofList name ++ ".tmp") := by
  rw [temporary, fileName?_eq hpath hname, withFileName, fileName?_eq hpath hname, hparent]
  rfl

/-! ## Paths that end at a name -/

theorem exists_last (text : List Char) :
    ∃ last, '/' ∉ last ∧ (text = last ∨ ∃ front, text = front ++ '/' :: last) := by
  by_cases hslash : '/' ∈ text
  · obtain ⟨after, before, hsplit, hnone⟩ := List.eq_append_cons_of_mem (List.mem_reverse.2 hslash)
    refine ⟨after.reverse, fun hmem => hnone (List.mem_reverse.1 hmem), .inr ⟨before.reverse, ?_⟩⟩
    rw [← List.reverse_reverse text, hsplit]
    simp
  · exact ⟨text, hslash, .inl rfl⟩

/-- **A path that ends at a name** is that name, alone or behind a slash. -/
theorem text_of_ending {text : List Char} {name : String}
    (h : (Route.ofText text).ending = .name name false) :
    IsPlain name.toList ∧ (text = name.toList ∨ ∃ front, text = front ++ '/' :: name.toList) := by
  obtain ⟨last, hslash, htext⟩ := exists_last text
  have hpieces : ∃ before stop, pieces 0 [] text = before ++ [⟨last, stop⟩] := by
    rcases htext with rfl | ⟨front, rfl⟩
    · exact ⟨[], _, pieces_of_no_slash hslash 0 []⟩
    · exact ⟨_, _, pieces_append last hslash front 0 []⟩
  obtain ⟨before, stop, hpieces⟩ := hpieces
  simp only [Route.ofText, hpieces, List.map_append, List.map_cons, List.map_nil, List.filter_append,
    List.filter_cons, List.filter_nil, List.getLast?_append, List.getLast?_singleton,
    Option.some_or] at h
  have hending (slash : Bool) (hpiece : Ending.ofPiece slash (Piece.ofText last) = .name name false) :
      slash = false ∧ last ≠ ['.'] ∧ last ≠ ['.', '.'] ∧ String.ofList last = name := by
    rw [Piece.ofText] at hpiece
    split at hpiece
    · cases hpiece
    · split at hpiece
      · cases hpiece
      · rename_i hdot hdots
        cases hpiece
        exact ⟨rfl, hdot, hdots, rfl⟩
  by_cases hempty : last = []
  · -- A path that ends with a slash does not end at a bare name.
    exfalso
    simp only [hempty, ne_eq, not_true_eq_false, decide_false, Bool.false_eq_true, if_false,
      List.append_nil, decide_true] at h
    split at h
    · cases h
    · rename_i piece rest _
      cases hpiece : Piece.ofText piece with
      | stay | up | name => rw [hpiece] at h; cases h
  · simp only [ne_eq, hempty, not_false_eq_true, decide_true, if_true, List.reverse_append,
      List.reverse_cons, List.reverse_nil, List.nil_append, List.singleton_append, Option.some.injEq,
      decide_false] at h
    obtain ⟨-, hdot, hdots, rfl⟩ := hending false h
    rw [String.toList_ofList]
    exact ⟨⟨hslash, hempty, hdot, hdots⟩, htext⟩

theorem parent?_of_plain {name : String} (h : IsPlain name.toList) :
    parent? name = some "" ∧ temporary name = name ++ ".tmp" := by
  obtain ⟨hslash, hne, hdot, hdots⟩ := id h
  have hcomponents : components name.toList = [⟨name.toList, name.toList.length⟩] := by
    rw [components, pieces_of_no_slash hslash]
    simp [counts, hne, hdot]
  have hrelative : isAbsolute name.toList = false := isAbsolute_of_isPlain h
  have hname : fileName? name = some name := by
    rw [fileName?, hcomponents]
    simp [hdot, hdots]
  have hparent : parent? name = some "" := by
    rw [parent?]
    dsimp only
    rw [hcomponents]
    simp [hrelative]
  refine ⟨hparent, ?_⟩
  rw [temporary, withFileName, hname, hparent]
  simp [join]

end Path

end Replica
