import TestScout.CommandLine.Report
import TestScout.Proofs.FileSystem
import TestScout.Proofs.Launch.Codec
import TestScout.Proofs.Position
import TestScout.Proofs.Server.Active

/-!
The command line and the server launch alike. A line that is given to the command line stands for
one of the declarations whose names begin on it; the server offers lenses for all of them. What is
printed for the line is what comes of a click on the lens of that declaration.
-/

namespace TestScout

/-- An element is the last of the largest: none before it is larger, and all after it are
smaller. -/
def LastLargest {α : Type} (size : α → Nat) (xs : List α) (x : α) : Prop :=
  ∃ before after, xs = before ++ x :: after ∧ (∀ y ∈ before, size y ≤ size x) ∧
    ∀ y ∈ after, size y < size x

namespace LastLargest

variable {α β : Type} {size : α → Nat} {xs : List α} {x : α}

lemma exists_of_ne_nil (h : xs ≠ []) : ∃ x, LastLargest size xs x := by
  induction xs with
  | nil => exact absurd rfl h
  | cons y ys ih =>
      by_cases hnil : ys = []
      · subst hnil
        exact ⟨y, [], [], rfl, by simp, by simp⟩
      · obtain ⟨x, before, after, rfl, hbefore, hafter⟩ := ih hnil
        -- the winner among the rest stays it, unless the first element is larger
        by_cases hle : size y ≤ size x
        · refine ⟨x, y :: before, after, rfl, ?_, hafter⟩
          rintro z (_ | ⟨_, hz⟩)
          · exact hle
          · exact hbefore z hz
        · refine ⟨y, [], before ++ x :: after, rfl, by simp, fun z hz => ?_⟩
          have hz_le : size z ≤ size x := by
            rcases List.mem_append.mp hz with hz | hz
            · exact hbefore z hz
            · rcases List.mem_cons.mp hz with rfl | hz
              · exact Nat.le_refl _
              · exact Nat.le_of_lt (hafter z hz)
          omega

lemma of_map {f : α → β} {size' : β → Nat} {y : β} (hsize : ∀ x ∈ xs, size' (f x) = size x)
    (h : LastLargest size' (xs.map f) y) : ∃ x ∈ xs, f x = y ∧ LastLargest size xs x := by
  obtain ⟨before', after', hsplit, hbefore, hafter⟩ := h
  obtain ⟨before, rest, rfl, rfl, hrest⟩ := List.map_eq_append_iff.mp hsplit
  obtain ⟨x, after, rfl, rfl, rfl⟩ := List.map_eq_cons_iff.mp hrest
  have hx : size' (f x) = size x := hsize x (by simp)
  refine ⟨x, by simp, rfl, before, after, rfl, fun z hz => ?_, fun z hz => ?_⟩
  · rw [← hsize z (by simp [hz]), ← hx]
    exact hbefore _ (List.mem_map_of_mem hz)
  · rw [← hsize z (by simp [hz]), ← hx]
    exact hafter _ (List.mem_map_of_mem hz)

end LastLargest

namespace CommandLine

/-! ### The declaration on a line -/

/-- The better of the best declaration so far and the next one. -/
def deeper (best : Option Declaration) (d : Declaration) : Option Declaration :=
  match best with
  | some b => if b.ancestors.length ≤ d.ancestors.length then some d else some b
  | none => some d

variable {ds : List Declaration} {d : Declaration} {best : Option Declaration} {k : Nat}

lemma innermost?_eq_foldl (ds : List Declaration) : innermost? ds = ds.foldl deeper none := rfl

lemma deeper_of_le (h : ∀ b, best = some b → b.ancestors.length ≤ d.ancestors.length) :
    deeper best d = some d := by
  cases best with
  | none => rfl
  | some b => exact if_pos (h b rfl)

lemma foldl_deeper_of_lt (h : ∀ e ∈ ds, e.ancestors.length < d.ancestors.length) :
    ds.foldl deeper (some d) = some d := by
  induction ds with
  | nil => rfl
  | cons e rest ih =>
      have hkeep : deeper (some d) e = some d := if_neg (Nat.not_le.mpr (h e List.mem_cons_self))
      rw [List.foldl_cons, hkeep]
      exact ih fun e' he' => h e' (List.mem_cons_of_mem _ he')

lemma length_le_of_foldl_deeper (hds : ∀ e ∈ ds, e.ancestors.length ≤ k)
    (hbest : ∀ b, best = some b → b.ancestors.length ≤ k) :
    ∀ b, ds.foldl deeper best = some b → b.ancestors.length ≤ k := by
  induction ds generalizing best with
  | nil => exact hbest
  | cons e rest ih =>
      rw [List.foldl_cons]
      refine ih (fun e' he' => hds e' (List.mem_cons_of_mem _ he')) fun b hb => ?_
      have he := hds e List.mem_cons_self
      cases best with
      | none =>
          obtain rfl : e = b := Option.some.inj hb
          exact he
      | some b' =>
          simp only [deeper] at hb
          split at hb
          · obtain rfl := Option.some.inj hb
            exact he
          · obtain rfl := Option.some.inj hb
            exact hbest _ rfl

/-- **Ties**: of the declarations with the most names around them the last one is chosen. -/
theorem innermost?_eq_some (h : LastLargest (·.ancestors.length) ds d) :
    innermost? ds = some d := by
  obtain ⟨before, after, rfl, hbefore, hafter⟩ := h
  rw [innermost?_eq_foldl, List.foldl_append, List.foldl_cons,
    deeper_of_le (length_le_of_foldl_deeper hbefore (by simp)), foldl_deeper_of_lt hafter]

end CommandLine

/-! ### The lenses on a line -/

namespace Lens

/-- How many names there are around the declaration that a lens carries. -/
def depth (l : Lens) : Nat :=
  match Declaration.ofJson l.argument with
  | .ok d => d.ancestors.length
  | .error _ => 0

/-- A lens begins on a line, as readers count lines. -/
def BeginsOn (n : Nat) (l : Lens) : Prop := l.range.start.line + 1 = n

instance (n : Nat) (l : Lens) : Decidable (l.BeginsOn n) :=
  inferInstanceAs (Decidable (l.range.start.line + 1 = n))

lemma beginsOn_on {text file : String} {d : Declaration} {a : Action} {n : Nat} :
    (on (.ofText text) file d a).BeginsOn n ↔ lineNumber (lineStarts text) d.span.start = n := by
  rw [LineTable.lineNumber_eq]
  rfl

lemma command_inj {a b : Action} : a.command = b.command ↔ a = b := by
  cases a <;> cases b <;> decide

lemma filter_on (text file : String) (d : Declaration) (a : Action) (n : Nat) :
    ((Action.all.map (on (.ofText text) file d)).filter fun l =>
      l.command = a.command ∧ l.BeginsOn n) =
        if lineNumber (lineStarts text) d.span.start = n then [on (.ofText text) file d a]
        else [] := by
  split
  · next hd =>
    -- on its line, all that sets the lenses of a declaration apart is the action
    have hwanted : (fun l : Lens => decide (l.command = a.command ∧ l.BeginsOn n)) ∘
        on (.ofText text) file d = fun b => decide (b = a) := funext fun b =>
      decide_eq_decide.mpr ((and_iff_left (beginsOn_on.mpr hd)).trans command_inj)
    have hone : Action.all.filter (fun b => decide (b = a)) = [a] := by cases a <;> rfl
    rw [List.filter_map, hwanted, hone]
    rfl
  · next hd =>
    rw [List.filter_eq_nil_iff]
    rintro _ hl hwanted
    obtain ⟨b, -, rfl⟩ := List.mem_map.mp hl
    exact hd (beginsOn_on.mp (of_decide_eq_true hwanted).2)

lemma depth_on {file : String} {d : Declaration} (hfile : d.file.toString? = some file)
    (hsmall : d.span.Small) (t : LineTable) (a : Action) :
    (on t file d a).depth = d.ancestors.length := by
  unfold depth on
  rw [Declaration.ofJson_members hfile hsmall]

end Lens

namespace Document

variable {doc : Document} {m : Markers} {d : Declaration} {n : Nat} {file : String}

/-- The declarations in a document whose names begin on a line. -/
def foundOn (doc : Document) (m : Markers) (n : Nat) : List Declaration :=
  (doc.found m).filter fun d => lineNumber (lineStarts doc.text) d.span.start = n

def lensesOn (doc : Document) (m : Markers) (n : Nat) (a : Action) : List Lens :=
  (doc.lenses m).filter fun l => l.command = a.command ∧ l.BeginsOn n

lemma lensesOn_eq (hfile : doc.path.toString? = some file) (n : Nat) (a : Action) :
    doc.lensesOn m n a = (doc.foundOn m n).map fun d => Lens.on (.ofText doc.text) file d a := by
  rw [lensesOn, lenses_eq hfile, foundOn]
  induction doc.found m with
  | nil => rfl
  | cons d ds ih =>
      rw [List.flatMap_cons, List.filter_append, ih, Lens.filter_on, List.filter_cons]
      by_cases hd : lineNumber (lineStarts doc.text) d.span.start = n
      · rw [if_pos hd, if_pos (decide_eq_true hd)]
        rfl
      · rw [if_neg hd, if_neg (by simpa using hd)]
        rfl

lemma exists_beginsOn_iff (hfile : doc.path.toString? = some file) :
    (∃ l ∈ doc.lenses m, l.BeginsOn n) ↔ doc.foundOn m n ≠ [] := by
  rw [lenses_eq hfile, foundOn, Ne, List.filter_eq_nil_iff]
  simp only [List.mem_flatMap, List.mem_map, decide_eq_true_eq, not_forall, not_not]
  constructor
  · rintro ⟨_, ⟨d, hd, a, -, rfl⟩, hline⟩
    exact ⟨d, hd, Lens.beginsOn_on.mp hline⟩
  · rintro ⟨d, hd, hline⟩
    exact ⟨_, ⟨d, hd, .run, by simp [Action.all], rfl⟩, Lens.beginsOn_on.mpr hline⟩

end Document

/-! ### The launch -/

/-- A launch that is printed and one that a server is asked for come to the same: what is printed is
the answer over several lines, and is read back as an object with the same members, which have
distinct names; or both fail since nothing above the file is the root of a project. -/
inductive SameLaunch (file : Path) : Except CommandError String → Except RpcFault Json → Prop where
  | launched {text : String} {members printed : List (String × Json)}
      (written : text = (Json.obj members).pretty ++ "\n")
      (read : Json.ofText? text = some (.obj printed)) (same : printed.Perm members)
      (distinct : (members.map (·.1)).Nodup) : SameLaunch file (.ok text) (.ok (.obj members))
  | noRoot (lastTried : Path) : SameLaunch file (.error (.failed (.rootNotFound file lastTried)))
      (.error (.failed (.rootNotFound file lastTried)))

lemma SameLaunch.eq_of_answered {file : Path} {printed : Except CommandError String} {v : Json}
    (h : SameLaunch file printed (.ok v)) : printed = .ok (v.pretty ++ "\n") := by
  cases h with
  | launched written => rw [written]

namespace CommandLine

variable {w : World} {c : Settings} {doc : Document} {d : Declaration} {file : Path} {n : Nat}

lemma pick_of_readText (habs : doc.path.isAbsolute = true)
    (hread : w.readText doc.path = .ok doc.text) (n : Nat) :
    pick w c doc.path n =
      match innermost? (doc.foundOn c.discovery n) with
      | some d => .ok d
      | none => .error (.notDeclared doc.path n) := by
  have hexamine : examine w c doc.path = .ok (doc.source, doc.found c.discovery) := by
    simp only [examine, Path.absolutize_of_isAbsolute habs, hread]
    rfl
  have hchosen : declaredOn? doc.source.text (doc.found c.discovery) n =
      innermost? (doc.foundOn c.discovery n) := rfl
  rw [pick, Json.bind_of_ok hexamine]
  simp only [hchosen]
  cases innermost? (doc.foundOn c.discovery n) <;> rfl

lemma sameLaunch_of_reports {a : Action} {o : Outcome} (hpick : pick w c file n = .ok d)
    (hfile : d.file.absolutize w.cwd = file) (ho : o.Reports (c.build w d a.mode)) :
    SameLaunch file (report w c (.launch file n (a = .debug))) o.answer := by
  have hmode : (if decide (a = .debug) then LaunchMode.debug else .run) = a.mode := by
    cases a <;> rfl
  cases hbuild : c.build w d a.mode with
  | error f =>
      obtain ⟨lastTried, rfl⟩ := Settings.error_of_build hbuild
      rw [hfile] at hbuild
      have hjson : launchJson w c file n (a = .debug) =
          .error (.failed (.rootNotFound file lastTried)) := by
        rw [launchJson, Json.bind_of_ok hpick, hmode, hbuild]
        rfl
      rw [hbuild] at ho
      obtain rfl := ho
      rw [report, hjson]
      exact .noRoot lastTried
  | ok spec =>
      rw [hbuild] at ho
      obtain ⟨v, hv, rfl⟩ := ho
      have hjson : launchJson w c file n (a = .debug) = .ok v := by
        rw [launchJson, Json.bind_of_ok hpick, hmode, hbuild]
        simp only [hv]
        rfl
      obtain ⟨members, printed, rfl, hdistinct, hread, hsame⟩ := LaunchSpec.exists_printed hv
      rw [report, hjson]
      exact .launched rfl hread hsame hdistinct

end CommandLine

namespace Server

/-- **One launch, two ways**: let a document of a server hold what its file holds. If none of the
lenses for the document begins on a line, nothing is launched for that line, since nothing is
declared there. Otherwise, of the lenses for an action that begin on the line, there is a last one
among those with the most names around; its command with its argument, which a click on it sends
back, comes to what is printed for the line: the same object of JSON, or the same failure. -/
theorem lenses_launch_as_printed {s : Server} {c : Settings} (active : s.Active c) {uri : Uri}
    {doc : Document} (opened : s.documents.get? uri = some doc)
    (absolute : doc.path.isAbsolute = true) {file : String}
    (text : doc.path.toString? = some file) (short : doc.text.utf8ByteSize < 0x100000000)
    {w : World} (saved : w.readText doc.path = .ok doc.text) (n : Nat) (a : Action) :
    s.handle w (.codeLens uri) =
      (s, ⟨.ok (.arr ((doc.lenses s.markers).map Lens.toJson)), []⟩) ∧
    ((∀ l ∈ doc.lenses s.markers, ¬ l.BeginsOn n) →
      CommandLine.report w c (.launch doc.path n (a = .debug)) =
        .error (.notDeclared doc.path n)) ∧
    ((∃ l ∈ doc.lenses s.markers, l.BeginsOn n) →
      (∃ l, LastLargest Lens.depth (doc.lensesOn s.markers n a) l) ∧
      ∀ l, LastLargest Lens.depth (doc.lensesOn s.markers n a) l →
        ∃ o, s.handle w (.execute l.command [l.argument]) = (s, o) ∧
          s.click w l.toJson = some (s, o) ∧
          SameLaunch doc.path (CommandLine.report w c (.launch doc.path n (a = .debug)))
            o.answer) := by
  have hpick := CommandLine.pick_of_readText (c := c) absolute saved n
  rw [← active.markers] at hpick
  have hmemory : Text.InMemory doc.text := by
    unfold Text.InMemory
    omega
  refine ⟨handle_codeLens opened w, fun hnone => ?_, fun hsome => ⟨?_, fun l hl => ?_⟩⟩
  · have hempty : doc.foundOn s.markers n = [] := by
      by_contra hne
      obtain ⟨l, hl, hline⟩ := (Document.exists_beginsOn_iff text).mpr hne
      exact hnone l hl hline
    rw [hempty] at hpick
    rw [CommandLine.report, CommandLine.launchJson, hpick]
    rfl
  · refine LastLargest.exists_of_ne_nil ?_
    rw [Document.lensesOn_eq text, Ne, List.map_eq_nil_iff]
    exact (Document.exists_beginsOn_iff text).mp hsome
  · have hfound (d : Declaration) (hd : d ∈ doc.foundOn s.markers n) :
        d.file = doc.path ∧ d.span.Small :=
      ⟨Document.file_of_mem_found (List.mem_filter.mp hd).1,
        Document.small_of_mem_found hmemory (List.mem_filter.mp hd).1⟩
    -- declarations come back from lenses as they were found, so the ranking is the same
    have hdepth : ∀ d ∈ doc.foundOn s.markers n,
        (Lens.on (.ofText doc.text) file d a).depth = d.ancestors.length := fun d hd =>
      Lens.depth_on ((hfound d hd).1 ▸ text) (hfound d hd).2 _ a
    rw [Document.lensesOn_eq text] at hl
    obtain ⟨d, hd, rfl, hlast⟩ := hl.of_map hdepth
    rw [CommandLine.innermost?_eq_some hlast] at hpick
    obtain ⟨hfile, hsmall⟩ := hfound d hd
    rw [← hfile] at absolute text
    obtain ⟨o, ho, hreports⟩ := reports_click text absolute hsmall (.ofText doc.text) a
    rw [active.launching] at hreports
    have hexecute := Option.some.inj ((click_lens s w _).symm.trans ho)
    refine ⟨o, hexecute, ho, CommandLine.sameLaunch_of_reports hpick ?_ hreports⟩
    rw [Path.absolutize_of_isAbsolute absolute, hfile]

/-- The files in the directory of `sampleDocument`: what it holds, and a manifest. -/
def savedFiles : List (List UInt8 × Entry) :=
  [(Text.toBytes "a.test.ts", .file (Text.toBytes sampleDocument.text)),
    (Text.toBytes "package.json", .file [])]

def savedWorld : World :=
  ⟨⟨.dir [(Text.toBytes "p", .dir savedFiles)]⟩, .ofString "/", fun _ => none, none⟩

lemma lookup_savedWorld {p : Path} (name : List UInt8) {content : List UInt8}
    (hplain : p.isAbsolute = true ∧ p.bytes.contains 0 = false ∧
      p.bytes.length ≤ FileSystem.maxPath)
    (hsteps : FileSystem.steps p = [Text.toBytes "p", name])
    (hname : name ≠ Path.dot ∧ name ≠ Path.dotDot ∧ name.length ≤ FileSystem.maxName)
    (hfile : savedFiles.lookup name = some (.file content)) :
    savedWorld.files.lookup p = .ok (.file content) := by
  obtain ⟨habs, hzero, hlength⟩ := hplain
  obtain ⟨hdot, hdotDot, hshort⟩ := hname
  have hdir : [(Text.toBytes "p", Entry.dir savedFiles)].lookup (Text.toBytes "p") =
      some (.dir savedFiles) := rfl
  rw [FileSystem.lookup_eq_follow habs hzero hlength, hsteps, savedWorld,
    FileSystem.follow_cons (by decide +kernel) (by decide +kernel) (by decide +kernel) hdir
      (by simp),
    FileSystem.follow_cons hdot hdotDot hshort hfile (by simp), FileSystem.follow_nil]

lemma readText_savedWorld : savedWorld.readText sampleDocument.path = .ok sampleDocument.text := by
  have hplace : savedWorld.place sampleDocument.path = sampleDocument.path := by decide +kernel
  have hlookup : savedWorld.files.lookup sampleDocument.path =
      .ok (.file (Text.toBytes sampleDocument.text)) :=
    lookup_savedWorld (Text.toBytes "a.test.ts") (by decide +kernel) (by decide +kernel)
      (by decide +kernel) rfl
  simp only [World.readText, World.readBytes, hplace, hlookup]
  rw [Json.bind_of_ok rfl, Text.ofBytes?_toBytes]
  rfl

lemma projectRoot_savedWorld :
    Settings.builtIn.projectRoot savedWorld sampleDocument.path = .ok (.ofString "/p") := by
  have hdirectory : ProjectRoot.directoryOf (sampleDocument.path.absolutize savedWorld.cwd) =
      .ofString "/p" := by decide +kernel
  have hplace : savedWorld.place ((Path.ofString "/p").join (.ofString "package.json")) =
      .ofString "/p/package.json" := by decide +kernel
  have hlookup : savedWorld.files.lookup (.ofString "/p/package.json") = .ok (.file []) :=
    lookup_savedWorld (Text.toBytes "package.json") (by decide +kernel) (by decide +kernel)
      (by decide +kernel) rfl
  have hhas : savedWorld.has ((Path.ofString "/p").join (.ofString "package.json")) = true := by
    simp only [World.has, hplace, hlookup]
  -- the directory of the file is looked into first, and has a manifest
  have hsearch : ProjectRoot.search savedWorld sampleDocument.path "package.json" 20 =
      ⟨.ofString "/p", true, [.ofString "/p"]⟩ := by
    rw [ProjectRoot.search, hdirectory]
    exact ProjectRoot.climb_of_holds hhas
  exact ProjectRoot.resolve_of_found hsearch

lemma build_sampleTest :
    ∃ spec, sampleServer.launching.build savedWorld sampleTest Action.debug.mode = .ok spec := by
  have hroot : sampleServer.launching.projectRoot savedWorld sampleTest.file =
      .ok (.ofString "/p") := projectRoot_savedWorld
  rw [Settings.build, hroot]
  exact ⟨_, rfl⟩

/-- The lens by which the test in `sampleDocument` is debugged. -/
def sampleLens : Lens := .on (.ofText sampleDocument.text) "/p/a.test.ts" sampleTest .debug

/-- A suite and the test in it begin on one line; what is printed to debug that line is the answer
to a click on the lens of the test. -/
theorem sampleLens_printed :
    sampleServer.Active .builtIn ∧
    sampleServer.documents.get? sampleDocument.uri = some sampleDocument ∧
    savedWorld.readText sampleDocument.path = .ok sampleDocument.text ∧
    LastLargest Lens.depth (sampleDocument.lensesOn sampleServer.markers 1 .debug) sampleLens ∧
    ∃ o v, sampleServer.click savedWorld sampleLens.toJson = some (sampleServer, o) ∧
      o.answer = .ok v ∧
      CommandLine.report savedWorld .builtIn (.launch sampleDocument.path 1 true) =
        .ok (v.pretty ++ "\n") := by
  have active : sampleServer.Active .builtIn := ⟨rfl, rfl, by decide⟩
  have opened : sampleServer.documents.get? sampleDocument.uri = some sampleDocument := by
    decide +kernel
  have absolute : sampleDocument.path.isAbsolute = true := by decide +kernel
  have text : sampleDocument.path.toString? = some "/p/a.test.ts" :=
    Path.toString?_ofString "/p/a.test.ts"
  have hsuite : sampleSuite.span.Small := ⟨by decide, by decide⟩
  have htest : sampleTest.span.Small := ⟨by decide, by decide⟩
  have hfound : sampleDocument.foundOn sampleServer.markers 1 = [sampleSuite, sampleTest] := by
    decide +kernel
  have hlargest : LastLargest Lens.depth
      (sampleDocument.lensesOn sampleServer.markers 1 .debug) sampleLens := by
    rw [Document.lensesOn_eq text, hfound]
    refine ⟨[_], [], rfl, fun l hl => ?_, by simp⟩
    obtain rfl := List.mem_singleton.mp hl
    rw [sampleLens, Lens.depth_on text hsuite, Lens.depth_on text htest]
    decide
  obtain ⟨-, -, hclick⟩ := lenses_launch_as_printed active opened absolute text (by decide)
    readText_savedWorld 1 .debug
  obtain ⟨-, hlast⟩ := hclick (by rw [Document.exists_beginsOn_iff text, hfound]; simp)
  obtain ⟨o, -, ho, hsame⟩ := hlast sampleLens hlargest
  obtain ⟨o', ho', hreports⟩ : ∃ o', sampleServer.click savedWorld sampleLens.toJson =
      some (sampleServer, o') ∧ o'.Reports
        (sampleServer.launching.build savedWorld sampleTest Action.debug.mode) :=
    reports_click text absolute htest (.ofText sampleDocument.text) .debug
  obtain rfl : o = o' := congrArg Prod.snd (Option.some.inj (ho.symm.trans ho'))
  obtain ⟨spec, hspec⟩ := build_sampleTest
  rw [hspec] at hreports
  obtain ⟨v, -, rfl⟩ := hreports
  exact ⟨active, opened, readText_savedWorld, hlargest, _, v, ho, rfl, hsame.eq_of_answered⟩

end Server

end TestScout
