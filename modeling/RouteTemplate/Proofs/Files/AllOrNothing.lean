import RouteTemplate.Proofs.Files.AtomicWrite

/-!
Writing a file in one step is all or nothing. When it succeeds the target has the text, and when it fails no file has
changed; in both cases nothing is new elsewhere but directories on the way to the target. It fails only for a reason that is
still there to be seen: the text has no octets, a directory is in the place of the target, a file is on the way to it, or no
file system takes the path.
-/

set_option autoImplicit false

namespace RouteTemplate

/-- A path is on the way of another, which starts where it does and goes on from it. -/
structure Path.OnWay (q p : Path) : Prop where
  anchor : q.anchor = p.anchor
  names : q.names <+: p.names

theorem Path.OnWay.refl (p : Path) : p.OnWay p := ⟨rfl, List.prefix_refl p.names⟩

theorem Path.OnWay.trans {p q r : Path} (first : p.OnWay q) (second : q.OnWay r) : p.OnWay r :=
  ⟨first.anchor.trans second.anchor, first.names.trans second.names⟩

theorem Path.onWay_parent (p : Path) : p.parent.OnWay p := ⟨rfl, List.dropLast_prefix p.names⟩

namespace FileTree

variable {tree made after : FileTree} {directory place folder : Place} {p q : Path} {names : List Text} {content : Text}
  {fault : FileFault} {e : FileError}

/-- A path leads to a place, however long it is. -/
def Leads (tree : FileTree) (directory : Place) (p : Path) (place : Place) : Prop :=
  tree.follow (if p.anchor = .here then directory else []) p.names = .ok place

theorem Leads.of_keepsDirectories (kept : tree.KeepsDirectories made) (leads : tree.Leads directory p place) :
    made.Leads directory p place := follow_of_keepsDirectories kept leads

theorem leads_of_locate (found : tree.locate directory p = .ok place) : tree.Leads directory p place :=
  (locate_eq_ok_iff.mp found).2.2

section Added

/-- A place is as it was, or nothing was there and a directory is now that is on the way of a path. -/
def KeptOrAdded (tree after : FileTree) (directory : Place) (p : Path) (place : Place) : Prop :=
  after.node? place = tree.node? place ∨
    tree.node? place = none ∧ after.node? place = some .directory ∧ ∃ q, q.OnWay p ∧ after.Leads directory q place

theorem KeptOrAdded.onWay (way : q.OnWay p) (clause : KeptOrAdded tree after directory q place) :
    KeptOrAdded tree after directory p place := by
  rcases clause with same | ⟨free, added, r, further, leads⟩
  · exact .inl same
  · exact .inr ⟨free, added, r, further.trans way, leads⟩

theorem KeptOrAdded.trans (kept : made.KeepsDirectories after) (first : KeptOrAdded tree made directory p place)
    (second : KeptOrAdded made after directory p place) : KeptOrAdded tree after directory p place := by
  rcases first with same | ⟨free, added, q, way, leads⟩
  · rcases second with again | ⟨free, added⟩
    · exact .inl (again.trans same)
    · exact .inr ⟨same ▸ free, added⟩
  · have there := kept place (isDirectory_iff.mpr added)
    exact .inr ⟨free, isDirectory_iff.mp there, q, way, leads.of_keepsDirectories kept⟩

theorem Ensures.keptOrAdded {outcome : Except FileError Unit × FileTree} (ensures : tree.Ensures directory p outcome)
    (place : Place) : KeptOrAdded tree outcome.2 directory p place := by
  cases ensures with
  | makes target found free =>
    by_cases same : place = target
    · subst same
      have added : (tree.put place .directory).node? place = some .directory := by simp [node?_put]
      have kept := (extends_put free .directory).keepsDirectories
      exact .inr ⟨free, added, p, .refl p, (leads_of_locate found).of_keepsDirectories kept⟩
    · left
      rw [node?_put, if_neg same]
      split
      · next atRoot => rw [node?, if_pos atRoot]
      · rfl
  | there | lost | occupied => exact .inl rfl

theorem keptOrAdded_ensureChain (tree : FileTree) (directory : Place) (anchor : Anchor) (names : List Text) (place : Place) :
    KeptOrAdded tree (tree.ensureChain directory anchor names).2 directory ⟨anchor, names.reverse⟩ place := by
  have above (name : Text) (above : List Text) : Path.OnWay ⟨anchor, above.reverse⟩ ⟨anchor, (name :: above).reverse⟩ :=
    ⟨rfl, by simp⟩
  induction tree, names using ensureChain_induction directory anchor with
  | base tree => exact (ensures_ensured tree directory _).keptOrAdded place
  | direct tree name rest _ => exact (ensures_ensured tree directory _).keptOrAdded place
  | stopped tree name rest e made chain => exact chain.onWay (above name rest)
  | resumed tree name rest made _ chain =>
    have last := ensures_ensured made directory ⟨anchor, (name :: rest).reverse⟩
    exact (chain.onWay (above name rest)).trans last.attempts.grown.stays.keepsDirectories (last.keptOrAdded place)

theorem keptOrAdded_makeDirectories (tree : FileTree) (directory : Place) (p : Path) (place : Place) :
    KeptOrAdded tree (tree.makeDirectories directory p).2 directory p place := by
  have chain := keptOrAdded_ensureChain tree directory p.anchor p.names.reverse place
  rw [List.reverse_reverse] at chain
  exact chain

end Added

section Blocked

/-- Why there is no directory where a path leads and none can be made: a file is on the way, or no file system takes the
path. -/
inductive Blocked (tree : FileTree) (directory : Place) (p : Path) : Prop
  | file (q : Path) (place : Place) (octets : List UInt8) (way : q.OnWay p) (leads : tree.Leads directory q place)
      (there : tree.node? place = some (.file octets))
  | null (held : p.names.any Path.holdsNull = true)
  | long (long : p.isTooLong = true)
  | longName (long : p.names.any Path.isTooLongName = true)

theorem enter_eq_error {name : Text} (failed : tree.enter place name = .error fault) :
    fault = .missing ∧ tree.node? place = none ∨ (∃ octets, tree.node? place = some (.file octets)) ∨
      Path.isTooLongName name = true := by
  unfold enter at failed
  split at failed
  · next absent =>
    cases failed
    exact .inl ⟨rfl, absent⟩
  · next octets file => exact .inr (.inl ⟨octets, file⟩)
  · split at failed
    · next long => exact .inr (.inr long)
    · cases failed

/-- Following stops where a name cannot be entered. -/
theorem follow_eq_error (failed : tree.follow place names = .error fault) :
    ∃ before name after here, names = before ++ name :: after ∧ tree.follow place before = .ok here ∧
      tree.enter here name = .error fault := by
  induction names generalizing place with
  | nil => cases failed
  | cons name names ih =>
    rw [follow] at failed
    cases entered : tree.enter place name with
    | error fault' =>
      rw [entered] at failed
      cases failed
      exact ⟨[], name, names, place, rfl, rfl, entered⟩
    | ok next =>
      rw [entered] at failed
      obtain ⟨before, stuck, after, here, rfl, led, stops⟩ := ih failed
      refine ⟨name :: before, stuck, after, here, rfl, ?_, stops⟩
      rw [follow, entered]
      exact led

theorem blocked_of_locate_eq_error (failed : tree.locate directory p = .error fault) (there : fault ≠ .missing) :
    tree.Blocked directory p := by
  unfold locate at failed
  split at failed
  · next held => exact .null held
  · split at failed
    · next long => exact .long long
    · obtain ⟨before, name, after, here, whole, led, stops⟩ := follow_eq_error failed
      rcases enter_eq_error stops with ⟨missing, _⟩ | ⟨octets, file⟩ | long
      · exact absurd missing there
      · exact .file ⟨p.anchor, before⟩ here octets ⟨rfl, whole ▸ List.prefix_append before _⟩ led file
      · refine .longName (List.any_eq_true.mpr ⟨name, ?_, long⟩)
        rw [whole]
        exact List.mem_append_right before List.mem_cons_self

section Ensures

variable {outcome : Except FileError Unit × FileTree} (ensures : tree.Ensures directory p outcome)
  (failed : outcome.1 = .error e)

include ensures failed

theorem Ensures.blocked (there : e.fault ≠ .missing) : outcome.2.Blocked directory p := by
  cases ensures with
  | makes | there => cases failed
  | lost fault unfound _ same =>
    cases failed
    exact blocked_of_locate_eq_error unfound (same ▸ there)
  | occupied place octets found file => exact .file p place octets (.refl p) (leads_of_locate found) file

theorem Ensures.ne_missing (reached : ∀ fault, tree.locate directory p = .error fault → fault ≠ .missing) :
    e.fault ≠ .missing := by
  cases ensures with
  | makes | there => cases failed
  | lost fault unfound _ same =>
    cases failed
    exact same ▸ reached fault unfound
  | occupied place octets found file _ same =>
    cases failed
    rw [same]
    decide

end Ensures

/-- Where the directory above is there, nothing is missing on the way. -/
theorem ne_missing_of_namesDirectory (named : p.names ≠ []) (above : tree.namesDirectory directory p.parent = true)
    (failed : tree.locate directory p = .error fault) : fault ≠ .missing := by
  rintro rfl
  obtain ⟨folder, found, there⟩ := namesDirectory_iff.mp above
  unfold locate at failed
  split at failed
  · cases failed
  · split at failed
    · cases failed
    · have led : tree.follow (if p.anchor = .here then directory else []) p.parent.names = .ok folder :=
        leads_of_locate found
      rw [Path.names_eq_append named, follow_append, led, ok_bind, follow, enter, isDirectory_iff.mp there] at failed
      cases long : Path.isTooLongName p.name <;> simp [long, follow] at failed

theorem Blocked.of_parent (named : p.names ≠ []) (blocked : tree.Blocked directory p.parent) : tree.Blocked directory p := by
  have whole := Path.names_eq_append named
  cases blocked with
  | file q place octets way leads there => exact .file q place octets (way.trans p.onWay_parent) leads there
  | null held => exact .null (by rw [whole, List.any_append, held, Bool.true_or])
  | long long => exact .long (Path.isTooLong_of_parent named long)
  | longName long => exact .longName (by rw [whole, List.any_append, long, Bool.true_or])

theorem blocked_ensureChain (tree : FileTree) (directory : Place) (anchor : Anchor) (names : List Text) :
    ∀ e, (tree.ensureChain directory anchor names).1 = .error e →
      (tree.ensureChain directory anchor names).2.Blocked directory ⟨anchor, names.reverse⟩ := by
  have named (name : Text) (above : List Text) : (name :: above).reverse ≠ [] := by simp
  have parent (name : Text) (above : List Text) :
      (⟨anchor, (name :: above).reverse⟩ : Path).parent = ⟨anchor, above.reverse⟩ := by simp [Path.parent]
  induction tree, names using ensureChain_induction directory anchor with
  | base tree =>
    intro e failed
    have ensures := ensures_ensured tree directory ⟨anchor, []⟩
    refine ensures.blocked failed (ensures.ne_missing failed fun fault unfound => ?_)
    have short : (⟨anchor, []⟩ : Path).isTooLong = false := by cases anchor <;> decide
    have found : tree.locate directory ⟨anchor, []⟩ = .ok _ := locate_eq_ok_iff.mpr ⟨rfl, short, rfl⟩
    cases found.symm.trans unfound
  | direct tree name above there =>
    intro e failed
    exact (ensures_ensured tree directory _).blocked failed (there e failed)
  | stopped tree name above e made chain =>
    intro e' failed
    refine .of_parent (named name above) ?_
    rw [parent]
    exact chain e' failed
  | resumed tree name above made done _ =>
    intro e failed
    have ensures := ensures_ensured made directory ⟨anchor, (name :: above).reverse⟩
    have attempt := attempts_ensureChain tree directory anchor above
    rw [done, ← parent name above] at attempt
    refine ensures.blocked failed (ensures.ne_missing failed fun fault unfound => ?_)
    exact ne_missing_of_namesDirectory (named name above) (attempt.named rfl) unfound

theorem blocked_makeDirectories (tree : FileTree) (directory : Place) (p : Path) (e : FileError)
    (failed : (tree.makeDirectories directory p).1 = .error e) :
    (tree.makeDirectories directory p).2.Blocked directory p := by
  have chain := blocked_ensureChain tree directory p.anchor p.names.reverse e failed
  rw [List.reverse_reverse] at chain
  exact chain

end Blocked

section Writing

/-- Why a text is not written to a path, as it shows in the tree: it has no octets, a directory is in the place of the
target, there is no way to the target, its last name is none or leaves no room for a temporary file, or the path with that
of a temporary file beside is too long or has surrogates in it. -/
inductive Hindered (tree : FileTree) (directory : Place) (p : Path) (content : Text) : Prop
  | surrogates (run : SurrogateRun) (broken : content.encode = .error run)
  | directory (target : Place) (leads : tree.Leads directory p target) (there : tree.isDirectory target = true)
  | blocked (way : tree.Blocked directory p.parent)
  | unnamed (none : p.names = [] ∨ p.name = Text.ofString "..")
  | unfit (fault : FileFault) (bad : temporaryFault? p.name = some fault)
  | path (e : WriteError) (bad : pathFault? directory p = some e)

/-- What writing a text to a path does: all of it or nothing. All other files are as they were, and nothing else is new but
directories on the way. -/
inductive AllOrNothing (tree : FileTree) (directory : Place) (p : Path) (content : Text) :
    Except WriteError Unit × FileTree → Prop
  | all (octets : List UInt8) (target : Place) (after : FileTree) (encoded : content.encode = .ok octets)
      (free : ¬after.Hindered directory p content) (leads : after.Leads directory p target)
      (written : after.octets? target = some octets)
      (files : ∀ place, place ≠ target → after.octets? place = tree.octets? place)
      (others : ∀ place, place ≠ target → KeptOrAdded tree after directory p.parent place) :
      AllOrNothing tree directory p content (.ok (), after)
  | nothing (e : WriteError) (after : FileTree) (reason : after.Hindered directory p content)
      (files : ∀ place, after.octets? place = tree.octets? place)
      (others : ∀ place, KeptOrAdded tree after directory p.parent place) :
      AllOrNothing tree directory p content (.error e, after)

/-- Only a path with a name of its own is written to. -/
theorem namesFile_of_replaceIn (done : (tree.replaceIn folder p content).1 = .ok ()) : NamesFile p := by
  unfold replaceIn at done
  dsimp only at done
  split at done
  · cases done
  · next fits =>
    split at done
    · cases done
    · by_cases unnamed : (p.names.isEmpty || decide (p.name = Text.ofString "..")) = true
      · rw [if_pos unnamed] at done
        cases done
      · simp only [Bool.or_eq_true, List.isEmpty_iff, decide_eq_true_eq, not_or] at unnamed
        exact ⟨unnamed.1, unnamed.2, fits⟩

/-- The way to a directory is free of files. -/
theorem isDirectory_of_onWay (way : q.OnWay p) (leads : tree.Leads directory q place) (further : tree.Leads directory p folder)
    (there : tree.isDirectory folder = true) : tree.isDirectory place = true := by
  obtain ⟨more, whole⟩ := way.names
  unfold Leads at leads further
  rw [← way.anchor, ← whole, follow_append, leads, ok_bind] at further
  cases more with
  | nil =>
    cases further
    exact there
  | cons name more =>
    rw [follow] at further
    cases entered : tree.enter place name with
    | error fault =>
      rw [entered] at further
      cases further
    | ok next => exact (enter_eq_ok_iff.mp entered).1

theorem isTooLongName_of_follow (led : tree.follow place names = .ok folder) : names.any Path.isTooLongName = false := by
  induction names generalizing place with
  | nil => rfl
  | cons name names ih =>
    rw [follow] at led
    cases entered : tree.enter place name with
    | error fault =>
      rw [entered] at led
      cases led
    | ok next =>
      rw [entered] at led
      rw [List.any_cons, (enter_eq_ok_iff.mp entered).2.1, ih led, Bool.or_false]

theorem not_blocked (found : tree.locate directory p = .ok folder) (there : tree.isDirectory folder = true) :
    ¬tree.Blocked directory p := by
  obtain ⟨plain, short, led⟩ := locate_eq_ok_iff.mp found
  rintro (⟨q, place, octets, way, leads, file⟩ | held | long | long)
  · have onWay := isDirectory_iff.mp (isDirectory_of_onWay way leads led there)
    cases file.symm.trans onWay
  · exact Bool.false_ne_true (plain.symm.trans held)
  · exact Bool.false_ne_true (short.symm.trans long)
  · exact Bool.false_ne_true ((isTooLongName_of_follow led).symm.trans long)

theorem NamesFile.leads (file : NamesFile p) (leads : tree.Leads directory p.parent folder)
    (there : tree.isDirectory folder = true) : tree.Leads directory p (folder ++ [p.name]) := by
  have above : tree.follow (if p.anchor = .here then directory else []) p.parent.names = .ok folder := leads
  rw [Leads, Path.names_eq_append file.named, follow_append, above, ok_bind, follow,
    file.enter_eq_ok_iff.mpr ⟨there, rfl⟩]
  rfl

theorem Irreplaceable.hindered (reason : Irreplaceable tree folder p content)
    (leads : tree.Leads directory p.parent folder) (there : tree.isDirectory folder = true) :
    tree.Hindered directory p content := by
  cases reason with
  | name fault bad => exact .unfit fault bad
  | surrogates run broken => exact .surrogates run broken
  | busy unnamed => exact .unnamed unnamed
  | directory occupied =>
    by_cases unnamed : p.names = [] ∨ p.name = Text.ofString ".."
    · exact .unnamed unnamed
    · obtain ⟨named, plain⟩ := not_or.mp unnamed
      cases fits : temporaryFault? p.name with
      | some fault => exact .unfit fault fits
      | none => exact .directory _ (NamesFile.leads ⟨named, plain, fits⟩ leads there) occupied

/-- What keeps a text from being written shows wherever the same things stand. -/
theorem Hindered.congr (same : ∀ place, after.node? place = tree.node? place) (reason : tree.Hindered directory p content) :
    after.Hindered directory p content := by
  have kept : tree.KeepsDirectories after := Extends.keepsDirectories fun place node there => (same place).trans there
  cases reason with
  | surrogates run broken => exact .surrogates run broken
  | directory target leads there => exact .directory target (leads.of_keepsDirectories kept) (kept target there)
  | unnamed none => exact .unnamed none
  | unfit fault bad => exact .unfit fault bad
  | path e bad => exact .path e bad
  | blocked way =>
    refine .blocked ?_
    cases way with
    | file q place octets way leads there =>
      exact .file q place octets way (leads.of_keepsDirectories kept) ((same place).trans there)
    | null held => exact .null held
    | long long => exact .long long
    | longName long => exact .longName long

theorem octets?_congr (same : after.node? place = tree.node? place) : after.octets? place = tree.octets? place := by
  rw [octets?, octets?, same]

/-- Once the directory above the target is there, writing is all or nothing. -/
theorem allOrNothing_of_replaces {outcome : Except WriteError Unit × FileTree} (grown : tree.GainsDirectories made)
    (added : ∀ place, KeptOrAdded tree made directory p.parent place) (found : made.locate directory p.parent = .ok folder)
    (there : made.isDirectory folder = true) (fit : pathFault? directory p = none)
    (file : outcome.1 = .ok () → NamesFile p) (replaces : made.Replaces folder p content outcome) :
    AllOrNothing tree directory p content outcome := by
  have leads := leads_of_locate found
  cases replaces with
  | written octets after encoded free same =>
    have kept := Replaces.keepsDirectories (.written octets after encoded free same)
    have target := ((file rfl).leads leads there).of_keepsDirectories kept
    have holds : after.node? (folder ++ [p.name]) = some (.file octets) := by rw [same, if_pos rfl]
    refine .all octets _ after encoded ?_ target (by rw [octets?, holds]) ?_ ?_
    · rintro (⟨run, broken⟩ | ⟨other, further, occupied⟩ | way | none | ⟨fault, bad⟩ | ⟨e, bad⟩)
      · cases encoded.symm.trans broken
      · cases target.symm.trans further
        cases holds.symm.trans (isDirectory_iff.mp occupied)
      · exact not_blocked (locate_of_keepsDirectories kept found) (kept folder there) way
      · exact none.elim (file rfl).named (file rfl).plain
      · cases (file rfl).fits.symm.trans bad
      · cases fit.symm.trans bad
    · intro place apart
      exact (octets?_congr (by rw [same, if_neg apart])).trans (grown.files place)
    · intro place apart
      exact (added place).trans kept (.inl (by rw [same, if_neg apart]))
  | refused e after reason same =>
    have kept : made.KeepsDirectories after := Extends.keepsDirectories fun place node stands => (same place).trans stands
    refine .nothing e after ((reason.hindered leads there).congr same) ?_ ?_
    · exact fun place => (octets?_congr (same place)).trans (grown.files place)
    · exact fun place => (added place).trans kept (.inl (same place))

/-- Writing a file in one step is all or nothing, whatever the tree, the path and the text are. -/
theorem writeAtomically_allOrNothing (tree : FileTree) (directory : Place) (p : Path) (content : Text) :
    AllOrNothing tree directory p content (tree.writeAtomically directory p content) := by
  have attempt := attempts_makeDirectories tree directory p.parent
  have added := keptOrAdded_makeDirectories tree directory p.parent
  have blocked := blocked_makeDirectories tree directory p.parent
  unfold writeAtomically
  split
  · next e made failed =>
    rw [failed] at attempt added blocked
    exact .nothing (.file e) made (.blocked (blocked e rfl)) attempt.grown.files added
  · next made done =>
    rw [done] at attempt added
    obtain ⟨folder, found, there⟩ := namesDirectory_iff.mp (attempt.named rfl)
    dsimp only at found
    rw [found]
    split
    · next e bad => exact .nothing e tree (.path e bad) (fun _ => rfl) fun _ => .inl rfl
    · next fit =>
      exact allOrNothing_of_replaces attempt.grown added found there fit namesFile_of_replaceIn
        (replaces_replaceIn made folder p content)

end Writing

end FileTree

end RouteTemplate
