import TypedRoutes.Proofs.Generate.Basic
import TypedRoutes.Proofs.Text.Split

/-! What the check of a manifest says: it accepts exactly the manifests whose names can be used, it
reports the first fault of any other, and what it accepts gives every route a title and a file of
its own. -/

namespace TypedRoutes.Manifest

/-- Routes whose names are names, and of which no two generate the same class. -/
structure WellNamed (routes : List Route) : Prop where
  /-- The classes of the methods have names. -/
  className : ∀ route ∈ routes, IsName route.className
  /-- The methods have names. -/
  method : ∀ route ∈ routes, IsName route.method
  /-- The generated classes differ. -/
  distinct : (routes.map Route.generatedClass).Nodup

/-- The error of a route behind some others. Its class is looked at first, then its method, and then
the class that it generates. -/
inductive Complains (earlier : List Route) (route : Route) : ManifestError → Prop where
  | className (unnamed : ¬ IsName route.className) :
    Complains earlier route (.badRouteName earlier.length (.className route.className))
  | method (className : IsName route.className) (unnamed : ¬ IsName route.method) :
    Complains earlier route (.badRouteName earlier.length (.methodName route.method))
  | sameClass (className : IsName route.className) (method : IsName route.method) (first : Route)
    (before between : List Route) (split : earlier = before ++ first :: between)
    (same : first.generatedClass = route.generatedClass)
    (only : ∀ other ∈ before ++ between, other.generatedClass ≠ route.generatedClass) :
    Complains earlier route (.sameClass earlier.length before.length route.generatedClass)

/-- A package for generated classes: a dotted name, or none. -/
def IsPackage (package : String) : Prop :=
  package = "" ∨ IsDottedName package

/-- A manifest in which every name can be used. -/
structure Admissible (manifest : Manifest) : Prop where
  /-- Generated classes are in a package or in none. -/
  package : IsPackage manifest.package
  /-- The request parsers have a package. -/
  runtimePackage : IsDottedName manifest.runtimePackage
  /-- So have the routes, and their classes differ. -/
  routes : WellNamed manifest.routes

/-- The error of a manifest that is refused: packages come before routes, and the first route with a
fault decides. -/
inductive Refuses (manifest : Manifest) : ManifestError → Prop where
  | package (unnamed : ¬ IsPackage manifest.package) :
    Refuses manifest (.badPackage manifest.package)
  | runtimePackage (package : IsPackage manifest.package)
    (unnamed : ¬ IsDottedName manifest.runtimePackage) :
    Refuses manifest (.badPackage manifest.runtimePackage)
  | route (package : IsPackage manifest.package)
    (runtimePackage : IsDottedName manifest.runtimePackage) (earlier : List Route) (route : Route)
    (later : List Route) (split : manifest.routes = earlier ++ route :: later)
    (wellNamed : WellNamed earlier) (error : ManifestError)
    (complaint : Complains earlier route error) : Refuses manifest error

/-! One route. -/

section

variable {earlier : List Route} {route : Route}

/-- A route has simple names where its class and its method have names. -/
theorem named_iff : route.Named ↔ IsName route.className ∧ IsName route.method := by
  rw [← isIdentifier_iff, ← isIdentifier_iff]
  exact ⟨fun named => ⟨named.className, named.method⟩, fun ⟨className, method⟩ =>
    ⟨className, method⟩⟩

/-- The class of an earlier route is found at its place, if it is the only one. -/
theorem idxOf?_classesOf {first : Route} {before between : List Route}
    (same : first.generatedClass = route.generatedClass)
    (only : ∀ other ∈ before ++ between, other.generatedClass ≠ route.generatedClass) :
    ((before ++ first :: between).map Route.generatedClass).idxOf? route.generatedClass =
      some before.length := by
  -- None of the routes before the first one of this class has it.
  induction before with
  | nil => simp [List.idxOf?_cons, same]
  | cons other before ih =>
    have apart : other.generatedClass ≠ route.generatedClass := only other (by simp)
    have later := ih fun another member => only another (by simp [member])
    rw [List.cons_append, List.map_cons, List.idxOf?_cons, later]
    simp [apart]

/-- A complaint is the error of the route. -/
theorem Complains.checkRoute_eq {error : ManifestError}
    (complaint : Complains earlier route error) :
    checkRoute route (earlier.map Route.generatedClass) = .error error := by
  -- The names are looked at before the class, so a complaint about the class means that both are
  -- fine.
  cases complaint with
  | className unnamed =>
    rw [← isIdentifier_iff] at unnamed
    simp [checkRoute, unnamed]
  | method className unnamed =>
    rw [← isIdentifier_iff] at className unnamed
    simp [checkRoute, className, unnamed]
  | sameClass className method first before between split same only =>
    rw [← isIdentifier_iff] at className method
    have found := idxOf?_classesOf same only
    rw [← split] at found
    simp only [Route.generatedClass] at found
    simp [checkRoute, className, method, found, Route.generatedClass]

/-- A route either goes on with what is well named, or there is a complaint about it. -/
theorem wellNamed_or_complains (before : WellNamed earlier) (route : Route) :
    WellNamed (earlier ++ [route]) ∨ ∃ error, Complains earlier route error := by
  -- The cases are in the order in which the route is looked at.
  by_cases className : IsName route.className
  · by_cases method : IsName route.method
    · by_cases new : route.generatedClass ∈ earlier.map Route.generatedClass
      · -- The class was generated before, and only once since the earlier classes differ.
        right
        obtain ⟨first, member, same⟩ := List.mem_map.mp new
        obtain ⟨front, back, split⟩ := List.append_of_mem member
        have distinct := before.distinct
        rw [split, List.map_append, List.map_cons, List.nodup_middle, List.nodup_cons,
          ← List.map_append] at distinct
        refine ⟨_, .sameClass className method first front back split same ?_⟩
        intro other inside equal
        exact distinct.1 (List.mem_map.mpr ⟨other, inside, equal.trans same.symm⟩)
      · left
        refine ⟨?_, ?_, ?_⟩
        · simpa [or_imp, forall_and] using ⟨before.className, className⟩
        · simpa [or_imp, forall_and] using ⟨before.method, method⟩
        · rw [List.map_append, List.map_singleton, ← List.concat_eq_append]
          exact before.distinct.concat new
    · exact Or.inr ⟨_, .method className method⟩
  · exact Or.inr ⟨_, .className className⟩

end

/-! The loop over the routes. -/

/-- Routes are checked one behind the other. -/
theorem checkRoutes_append (classes : List String) (first second : List Route) :
    checkRoutes classes (first ++ second) = (do
      checkRoutes classes first
      checkRoutes (classes ++ first.map Route.generatedClass) second) := by
  induction first generalizing classes with
  | nil => simp [checkRoutes, bind, Except.bind]
  | cons route first ih =>
    -- The class of this route is one more that the others are compared with.
    simp only [List.cons_append, checkRoutes, ih, bind_assoc, List.map_cons, List.append_assoc,
      List.nil_append]
    rfl

/-- Well named routes pass the loop. -/
theorem checkRoutes_of_wellNamed {routes : List Route} (wellNamed : WellNamed routes) :
    checkRoutes [] routes = .ok () := by
  -- No class was generated before the first route.
  rw [checkRoutes_eq_ok_iff]
  refine ⟨?_, wellNamed.distinct, by simp⟩
  intro route member
  exact named_iff.mpr ⟨wellNamed.className route member, wellNamed.method route member⟩

/-- The loop stops at a complaint about a route behind others that are well named. -/
theorem checkRoutes_of_complains {earlier later : List Route} {route : Route}
    {error : ManifestError} (wellNamed : WellNamed earlier)
    (complaint : Complains earlier route error) :
    checkRoutes [] (earlier ++ route :: later) = .error error := by
  -- The loop reaches the route with the classes of all others before it.
  have stopped : checkRoute route ([] ++ earlier.map Route.generatedClass) = .error error :=
    complaint.checkRoute_eq
  rw [checkRoutes_append, checkRoutes_of_wellNamed wellNamed]
  simp only [checkRoutes, stopped]
  rfl

/-- Some routes behind others that are well named are so too, or one is the first that is not. -/
theorem wellNamed_or_exists_complaint {earlier : List Route} (before : WellNamed earlier)
    (routes : List Route) :
    WellNamed (earlier ++ routes) ∨ ∃ front route back error, routes = front ++ route :: back ∧
      WellNamed (earlier ++ front) ∧ Complains (earlier ++ front) route error := by
  -- As long as there is no complaint, the earlier routes stay well named.
  induction routes generalizing earlier with
  | nil => exact Or.inl (by simpa using before)
  | cons route routes ih =>
    rcases wellNamed_or_complains before route with next | ⟨error, complaint⟩
    · rcases ih next with all | ⟨front, faulty, back, error, rfl, wellNamed, complaint⟩
      · exact Or.inl (by simpa using all)
      · refine Or.inr ⟨route :: front, faulty, back, error, rfl, ?_, ?_⟩
        · simpa using wellNamed
        · simpa using complaint
    · exact Or.inr ⟨[], route, routes, error, rfl, by simpa using before, by simpa using complaint⟩

/-! The whole manifest. -/

section

variable {manifest : Manifest}

/-- The packages that pass the check are those that generated classes may have. -/
theorem isPackage_iff {package : String} :
    checkPackage package = .ok () ↔ IsPackage package := by
  rw [checkPackage_eq_ok_iff, isDottedIdentifier_iff]
  rfl

/-- Any other package is reported. -/
theorem checkPackage_of_unnamed {package : String} (unnamed : ¬ IsPackage package) :
    checkPackage package = .error (.badPackage package) := by
  rw [IsPackage, ← isDottedIdentifier_iff] at unnamed
  simpa [checkPackage] using unnamed

/-- The empty text is no dotted name. -/
theorem not_isDottedName_empty : ¬ IsDottedName "" := by
  rw [← isDottedIdentifier_iff]
  decide

/-- The check of names by characters and the one by parts accept the same manifests. -/
theorem valid_iff_admissible : manifest.Valid ↔ manifest.Admissible := by
  -- Both say the same about each name.
  constructor
  · rintro ⟨package, runtimePackage, named, distinct⟩
    rw [isDottedIdentifier_iff] at package runtimePackage
    exact ⟨package, runtimePackage, fun route member => (named_iff.mp (named route member)).1,
      fun route member => (named_iff.mp (named route member)).2, distinct⟩
  · rintro ⟨package, runtimePackage, className, method, distinct⟩
    rw [IsPackage, ← isDottedIdentifier_iff] at package
    rw [← isDottedIdentifier_iff] at runtimePackage
    exact ⟨package, runtimePackage, fun route member =>
      named_iff.mpr ⟨className route member, method route member⟩, distinct⟩

/-- With both packages in order, the routes decide. -/
theorem check_of_packages (package : IsPackage manifest.package)
    (runtimePackage : IsDottedName manifest.runtimePackage) :
    manifest.check = checkRoutes [] manifest.routes := by
  -- The two packages are checked before the routes.
  have first := isPackage_iff.mpr package
  have second : checkPackage manifest.runtimePackage = .ok () :=
    isPackage_iff.mpr (Or.inr runtimePackage)
  have filled : manifest.runtimePackage ≠ "" := by
    intro empty
    exact not_isDottedName_empty (empty ▸ runtimePackage)
  simp [check, first, second, filled, bind, Except.bind]

/-- A manifest that is refused has the error that it is refused for. -/
theorem Refuses.check_eq {error : ManifestError} (refused : manifest.Refuses error) :
    manifest.check = .error error := by
  -- The checks before the failing one pass.
  cases refused with
  | package unnamed => simp [check, checkPackage_of_unnamed unnamed, bind, Except.bind]
  | runtimePackage package unnamed =>
    have first := isPackage_iff.mpr package
    by_cases empty : manifest.runtimePackage = ""
    -- The check of the name passes the empty one, and it is refused behind it.
    · have second : checkPackage "" = .ok () := isPackage_iff.mpr (Or.inl rfl)
      simp [check, first, second, empty, bind, Except.bind]
    · have second : checkPackage manifest.runtimePackage =
          .error (.badPackage manifest.runtimePackage) := by
        apply checkPackage_of_unnamed
        rintro (bare | dotted)
        · exact empty bare
        · exact unnamed dotted
      simp [check, first, second, bind, Except.bind]
  | route package runtimePackage earlier route later split wellNamed _ complaint =>
    rw [check_of_packages package runtimePackage, split]
    exact checkRoutes_of_complains wellNamed complaint

/-- A manifest is admissible, or there is an error for which it is refused. -/
theorem admissible_or_refused (manifest : Manifest) :
    manifest.Admissible ∨ ∃ error, manifest.Refuses error := by
  by_cases package : IsPackage manifest.package
  · by_cases runtimePackage : IsDottedName manifest.runtimePackage
    · have none : WellNamed [] := ⟨by simp, by simp, by simp⟩
      rcases wellNamed_or_exists_complaint none manifest.routes with
        wellNamed | ⟨earlier, route, later, error, split, wellNamed, complaint⟩
      · exact Or.inl ⟨package, runtimePackage, by simpa using wellNamed⟩
      · exact Or.inr ⟨error, .route package runtimePackage earlier route later split
          (by simpa using wellNamed) error (by simpa using complaint)⟩
    · exact Or.inr ⟨_, .runtimePackage package runtimePackage⟩
  · exact Or.inr ⟨_, .package package⟩

/-- The title of a route shows its class and its method, which have no dot. -/
theorem generatedClass_of_title {route other : Route} (named : route.Named) (proper : other.Named)
    (same : route.title = other.title) : route.generatedClass = other.generatedClass := by
  -- So the title is cut at its only dot.
  have parts {route : Route} (named : route.Named) :
      partsOf '.' route.title = [route.className, route.method] := by
    obtain ⟨className, method⟩ := named_iff.mp named
    have shape : route.title.toList = route.className.toList ++ '.' :: route.method.toList := by
      simp [Route.title]
    rw [partsOf_eq_append shape,
      partsOf_of_not_mem (not_mem_of_isName className (by decide)),
      partsOf_of_not_mem (not_mem_of_isName method (by decide))]
    rfl
  have both := parts named
  rw [same, parts proper] at both
  simp only [List.cons.injEq, and_true] at both
  simp [Route.generatedClass, Route.handler, Java.Handler.generatedClass, Java.Handler.baseName,
    both]

/-- Routes of an admissible manifest are told apart by their titles and by the names of their
files. -/
theorem Admissible.pairwise (admissible : manifest.Admissible) :
    manifest.routes.Pairwise fun route other => route.title ≠ other.title ∧
      ∀ file another, manifest.fileFor route = .ok file → manifest.fileFor other = .ok another →
        file.name ≠ another.name := by
  have valid := valid_iff_admissible.mpr admissible
  have apart := List.pairwise_map.mp valid.distinct
  -- Whatever two routes have in common, they generate different classes.
  refine apart.imp_of_mem fun {route other} member inside differ => ⟨?_, ?_⟩
  · intro same
    have named := valid.named route member
    exact differ (generatedClass_of_title named (valid.named other inside) same)
  · intro file another made too same
    rw [name_of_fileFor made, name_of_fileFor too] at same
    exact differ (by simpa using same)

end

/-- The check accepts a manifest if its packages and routes are named as they should be and no two
routes generate the same class, and otherwise it gives the error of the first fault. In what it
accepts, no two routes have the same title, and no two files have the same name. -/
theorem check_outcome (manifest : Manifest) :
    (manifest.check = .ok () ↔ manifest.Admissible) ∧
    (∀ error, manifest.check = .error error ↔ manifest.Refuses error) ∧
    (manifest.check = .ok () → manifest.routes.Pairwise fun route other =>
      route.title ≠ other.title ∧ ∀ file another, manifest.fileFor route = .ok file →
        manifest.fileFor other = .ok another → file.name ≠ another.name) := by
  have accepted : manifest.check = .ok () ↔ manifest.Admissible := by
    rw [check_eq_ok_iff, valid_iff_admissible]
  refine ⟨accepted, ?_, fun checked => (accepted.mp checked).pairwise⟩
  intro error
  constructor
  -- What fails is not accepted, so it is refused for some error.
  · intro failed
    rcases manifest.admissible_or_refused with admissible | ⟨other, refused⟩
    · rw [accepted.mpr admissible] at failed
      cases failed
    -- A check has only one result.
    · rw [refused.check_eq, Except.error.injEq] at failed
      exact failed ▸ refused
  · exact Refuses.check_eq

/-- Two routes for the same path. -/
def twoRoutes (className method other otherMethod : String) : Manifest :=
  { routes := [⟨className, method, "/"⟩, ⟨other, otherMethod, "/"⟩] }

/-- Underscores may stand in a class and in a method, so different names can be joined to one; names
that are not joined to one are accepted. -/
theorem check_outcome_joined :
    (twoRoutes "A_B" "c" "A" "b_C").check = .error (.sameClass 1 0 "A_B_C_ParamParser") ∧
      (twoRoutes "A_B" "c" "A" "c").check = .ok () ∧
      (twoRoutes "A_B" "c" "A" "c").routes.Pairwise fun route other =>
        route.title ≠ other.title ∧ ∀ file another,
          (twoRoutes "A_B" "c" "A" "c").fileFor route = .ok file →
          (twoRoutes "A_B" "c" "A" "c").fileFor other = .ok another → file.name ≠ another.name := by
  have named {word : String} (proper : isIdentifier word = true) : IsName word :=
    isIdentifier_iff.mp proper
  have dotted : IsDottedName "routetemplate.web" := isDottedIdentifier_iff.mp (by decide)
  constructor
  -- Both routes join to the same class, and the second one is reported.
  · have alone : WellNamed [⟨"A_B", "c", "/"⟩] := by
      refine ⟨?_, ?_, by simp⟩
      · simpa using named (by decide)
      · simpa using named (by decide)
    have complaint : Complains [⟨"A_B", "c", "/"⟩] ⟨"A", "b_C", "/"⟩
        (.sameClass 1 0 "A_B_C_ParamParser") :=
      .sameClass (named (by decide)) (named (by decide)) ⟨"A_B", "c", "/"⟩ [] [] rfl rfl (by simp)
    exact ((check_outcome (twoRoutes "A_B" "c" "A" "b_C")).2.1 _).mpr
      (.route (Or.inl rfl) dotted _ _ [] rfl alone _ complaint)
  -- With other methods the classes differ.
  · have wellNamed : WellNamed (twoRoutes "A_B" "c" "A" "c").routes := by
      refine ⟨?_, ?_, by decide⟩
      · simpa [twoRoutes] using ⟨named (by decide), named (by decide)⟩
      · simpa [twoRoutes] using named (by decide)
    have whole := check_outcome (twoRoutes "A_B" "c" "A" "c")
    have accepted := whole.1.mpr ⟨Or.inl rfl, dotted, wellNamed⟩
    exact ⟨accepted, whole.2.2 accepted⟩

end TypedRoutes.Manifest
