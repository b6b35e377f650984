import RobotWorkshop.Proofs.Acyclicity

/-!
The search finds a cycle when there is one.  While it goes on, the trail ends with the stack of the
walk (`Trail.Along`), for what the walk has taken from its stack is dropped from the trail before
the next edge is added.  And every edge that was met leads to a node from which all paths end, or to
the node that lies above its own on the stack (`Walking`).  So a node that is taken from the stack
has only ended paths before it, and if no search shows a cycle, then

    every path along the edges ends                                        (ends_of_searchFrom)

What a search shows, if it does not use up its stack, is a trail and an edge that leads back to it
(`Ending`).
-/

namespace RobotWorkshop

variable {edges pending : List Edge} {explored stack : List Nat} {start : Nat}

/-- Every path from the node ends. -/
def Ends (edges : List Edge) (n : Nat) : Prop := Acc (Function.swap (Leads edges)) n

/-- In a list without repetition nothing but the list itself ends it and has its first item. -/
theorem tail_eq_of_suffix {α : Type} {a : α} {rest l : List α} (nodup : (a :: l).Nodup)
    (h : a :: rest <:+ a :: l) : rest = l := by
  rcases List.suffix_cons_iff.mp h with same | later
  · exact (List.cons.inj same).2
  · exact absurd (later.subset List.mem_cons_self) (List.nodup_cons.mp nodup).1

/-- What is found is the only thing that is taken away. -/
theorem mem_eraseP_of_find? {α : Type} {p : α → Bool} {as : List α} {a b : α}
    (found : as.find? p = some a) (mem : b ∈ as) : b = a ∨ b ∈ as.eraseP p := by
  induction as with
  | nil => cases mem
  | cons c as ih =>
    rw [List.find?_cons] at found
    rw [List.eraseP_cons]
    split at found
    · rename_i holds
      obtain rfl := Option.some.inj found
      rw [holds]
      exact List.mem_cons.mp mem
    · rename_i fails
      rw [fails]
      rcases List.mem_cons.mp mem with rfl | later
      · exact .inr List.mem_cons_self
      · exact (ih found later).imp_right (List.mem_cons_of_mem c)

/-! ## The trail -/

/-- The first edge begins at the start, and each other one where the edge before it ends.  The last
edge comes first. -/
def Joined (start : Nat) (path : List Edge) : Prop :=
  path.map (·.1) = (path.map (·.2) ++ [start]).tail

theorem Joined.of_suffix {path whole : List Edge} (h : Joined start whole) (suffix : path <:+ whole) :
    Joined start path := by
  induction whole with
  | nil => rwa [List.suffix_nil.mp suffix]
  | cons e whole ih =>
    rcases List.suffix_cons_iff.mp suffix with rfl | earlier
    · exact h
    · refine ih ?_ earlier
      have tails : e.1 :: whole.map (·.1) = whole.map (·.2) ++ [start] := h
      rw [Joined, ← tails]
      rfl

namespace Trail

/-- The trail leads from the start along the stack of the walk, and maybe further. -/
structure Along (start : Nat) (stack : List Nat) (t : Trail) : Prop where
  active : t.active = t.path.map (·.2) ++ [start]
  nodup : t.active.Nodup
  latest : t.latest = t.path.head?.map (·.2)
  suffix : stack <:+ t.active
  joined : Joined start t.path

/-- What stands above a node on the path is dropped. -/
theorem shorten_spec {tail : Nat} {rest active : List Nat} {path : List Edge}
    (nodes : active = path.map (·.2) ++ [start]) (nodup : active.Nodup)
    (suffix : tail :: rest <:+ active) (begun : path ≠ [])
    (further : path.head?.map (·.2) ≠ some tail) :
    (shorten tail path active).2 = tail :: rest ∧
      tail :: rest = (shorten tail path active).1.map (·.2) ++ [start] := by
  induction path generalizing active with
  | nil => exact absurd rfl begun
  | cons e path ih =>
    have other : tail ≠ e.2 := fun same => further (by simp [same])
    subst nodes
    have below : tail :: rest <:+ path.map (·.2) ++ [start] :=
      (List.suffix_cons_iff.mp suffix).resolve_left fun same => other (List.cons.inj same).1
    have nodup_below := (List.nodup_cons.mp nodup).2
    have erased : ((e :: path).map (·.2) ++ [start]).erase e.2 = path.map (·.2) ++ [start] := by simp
    cases path with
    | nil =>
      have same : tail :: rest = [start] :=
        (List.suffix_cons_iff.mp below).resolve_right (by simp)
      obtain ⟨rfl, rfl⟩ := List.cons.inj same
      simp [shorten]
    | cons previous path =>
      rw [shorten, erased]
      split
      · rename_i here
        subst here
        obtain rfl := tail_eq_of_suffix nodup_below below
        exact ⟨rfl, rfl⟩
      · rename_i elsewhere
        exact ih rfl nodup_below below (by simp) (by simpa using elsewhere)

theorem shorten_suffix (tail : Nat) (path : List Edge) (active : List Nat) :
    (shorten tail path active).1 <:+ path := by
  fun_induction shorten tail path active with
  | case1 => exact List.suffix_rfl
  | case2 => exact List.nil_suffix
  | case3 => exact List.suffix_cons _ _
  | case4 e previous path active _ ih => exact ih.trans (List.suffix_cons e _)

theorem backTo_suffix (t : Trail) (tail : Nat) : (t.backTo tail).path <:+ t.path := by
  unfold Trail.backTo
  split
  · exact shorten_suffix tail t.path t.active
  · exact List.suffix_rfl

/-- Before an edge is added, the trail is cut back to the stack. -/
theorem Along.backTo {tail : Nat} {rest : List Nat} {t : Trail} (h : t.Along start (tail :: rest)) :
    (t.backTo tail).active = tail :: rest ∧
      tail :: rest = (t.backTo tail).path.map (·.2) ++ [start] ∧ (t.backTo tail).seen = t.seen := by
  unfold Trail.backTo
  split
  · rename_i further
    rw [h.latest, Option.any_map, Option.any_eq_true] at further
    obtain ⟨e, first, other⟩ := further
    have begun : t.path ≠ [] := by
      intro nothing
      rw [nothing] at first
      cases first
    obtain ⟨active, path⟩ := shorten_spec h.active h.nodup h.suffix begun (by
      rw [first]
      simpa using other)
    exact ⟨active, path, rfl⟩
  · rename_i there
    have same : t.active = tail :: rest := by
      obtain ⟨active, nodup, latest, suffix⟩ := h
      rw [latest, Option.any_map] at there
      cases begun : t.path with
      | nil =>
        rw [begun] at active
        rw [active] at suffix ⊢
        exact ((List.suffix_cons_iff.mp suffix).resolve_right (by simp)).symm
      | cons e path =>
        rw [begun] at active there
        have here : e.2 = tail := by simpa using there
        rw [active, List.map_cons, List.cons_append, here] at nodup suffix ⊢
        rw [tail_eq_of_suffix nodup suffix]
    exact ⟨same, same ▸ h.active, rfl⟩

end Trail

/-! ## The walk -/

theorem depthFirst_of_none {node : Nat} (done : pending.find? (·.1 = node) = none) :
    depthFirst pending (node :: stack) = depthFirst pending stack := by
  rw [depthFirst]
  split
  · rfl
  · simp_all

theorem depthFirst_of_some {node : Nat} {e : Edge} (found : pending.find? (·.1 = node) = some e) :
    depthFirst pending (node :: stack) =
      e :: depthFirst (pending.eraseP (·.1 = node)) (e.2 :: node :: stack) := by
  rw [depthFirst]
  split
  · simp_all
  · simp_all

/-- All paths from the nodes that earlier searches have met end, and lead to such nodes only. -/
def Settled (edges : List Edge) (explored : List Nat) : Prop :=
  ∀ n ∈ explored, Ends edges n ∧ ∀ m, Leads edges n m → m ∈ explored

/-- Where the walk stands that goes on from a stack of nodes which no earlier search has met. -/
structure Walking (edges : List Edge) (explored : List Nat) (start : Nat) (pending : List Edge)
    (stack : List Nat) (t : Trail) : Prop where
  along : t.Along start stack
  begun : start ∈ t.seen
  among : ∀ e ∈ pending, e ∈ edges
  walked : ∀ e ∈ t.path, e ∈ edges
  left : ∀ n ∈ t.seen, n ∈ stack ∨ Ends edges n ∧ ∀ e ∈ pending, e.1 ≠ n
  met : ∀ e ∈ edges, e ∈ pending ∨ (e.2 ∈ explored ∨ e.2 ∈ t.seen) ∧
    (Ends edges e.2 ∨ [e.2, e.1].Sublist stack)

namespace Walking

variable {t : Trail} {node : Nat} {e : Edge}

theorem startAt (edges : List Edge) (explored : List Nat) (start : Nat) :
    Walking edges explored start edges [start] (.startAt start) where
  along := ⟨rfl, by simp [Trail.startAt], rfl, List.suffix_rfl, rfl⟩
  begun := List.mem_singleton_self start
  among _ := id
  walked _ mem := nomatch mem
  left n mem := .inl mem
  met e mem := .inl mem

/-- **Step lemma.**  A node from which no edge is pending is taken from the stack: every path from
it ends. -/
theorem pop (h : Walking edges explored start pending (node :: stack) t)
    (done : pending.find? (·.1 = node) = none) :
    Walking edges explored start pending stack t := by
  have no_more : ∀ e ∈ pending, e.1 ≠ node := by simpa using done
  have nodup : (node :: stack).Nodup := h.along.suffix.sublist.nodup h.along.nodup
  have ends : Ends edges node := by
    refine ⟨node, fun m edge => ?_⟩
    rcases h.met (node, m) edge with waiting | ⟨-, ends | above⟩
    · exact absurd rfl (no_more _ waiting)
    · exact ends
    · -- nothing lies above the top of the stack
      have below : node ∈ stack := by
        rcases List.sublist_cons_iff.mp above with later | ⟨rest, heads, later⟩
        · exact later.subset (by simp)
        · exact later.subset (by simp [← (List.cons.inj heads).2])
      exact absurd below (List.nodup_cons.mp nodup).1
  refine ⟨{ h.along with suffix := (List.suffix_cons node stack).trans h.along.suffix }, h.begun,
    h.among, h.walked, ?_, ?_⟩
  · intro n mem
    rcases h.left n mem with there | settled
    · rcases List.mem_cons.mp there with rfl | below
      · exact .inr ⟨ends, no_more⟩
      · exact .inl below
    · exact .inr settled
  · intro e mem
    refine (h.met e mem).imp_right (And.imp_right fun place => ?_)
    rcases place with ends' | above
    · exact .inl ends'
    · rcases List.sublist_cons_iff.mp above with later | ⟨rest, heads, -⟩
      · exact .inr later
      · exact .inl ((List.cons.inj heads).1 ▸ ends)

/-- **Step lemma.**  An edge to a node that an earlier search has met is passed over. -/
theorem pass (h : Walking edges explored start pending stack t) (settled : Settled edges explored)
    (found : pending.find? (·.1 = node) = some e) (known : e.2 ∈ explored) :
    Walking edges explored start (pending.eraseP (·.1 = node)) stack t := by
  refine ⟨h.along, h.begun, fun e' mem => h.among e' (List.mem_of_mem_eraseP mem), h.walked, ?_, ?_⟩
  · intro n mem
    refine (h.left n mem).imp_right (And.imp_right fun none_left e' mem' => ?_)
    exact none_left e' (List.mem_of_mem_eraseP mem')
  · intro e' mem
    rcases h.met e' mem with waiting | met
    · rcases mem_eraseP_of_find? found waiting with rfl | still
      · exact .inr ⟨.inl known, .inl (settled _ known).1⟩
      · exact .inl still
    · exact .inr met

/-- The edge that is met next goes on where the trail, once it is cut back, ends. -/
theorem closing (h : Walking edges explored start pending (node :: stack) t)
    (found : pending.find? (·.1 = node) = some e) :
    (e :: (t.backTo node).path).map (·.1) = (t.backTo node).active ∧
      Joined start (e :: (t.backTo node).path) ∧ ∀ e' ∈ e :: (t.backTo node).path, e' ∈ edges := by
  obtain ⟨active, path, -⟩ := h.along.backTo
  have kept := Trail.backTo_suffix t node
  have tail : e.1 = node := by simpa using List.find?_some found
  have tails : (e :: (t.backTo node).path).map (·.1) = node :: stack := by
    rw [List.map_cons, tail, h.along.joined.of_suffix kept, ← path]
    rfl
  refine ⟨tails.trans active.symm, tails.trans path, fun e' mem => ?_⟩
  rcases List.mem_cons.mp mem with rfl | before
  · exact h.among e' (List.mem_of_find?_eq_some found)
  · exact h.walked e' (kept.subset before)

/-- **Step lemma.**  Any other edge is added to the trail, and its head is put on the stack. -/
theorem push (h : Walking edges explored start pending (node :: stack) t)
    (found : pending.find? (·.1 = node) = some e) (fresh : e.2 ∉ (t.backTo node).active) :
    Walking edges explored start (pending.eraseP (·.1 = node)) (e.2 :: node :: stack)
      { path := e :: (t.backTo node).path, active := e.2 :: (t.backTo node).active,
        seen := e.2 :: (t.backTo node).seen, latest := some e.2 } := by
  obtain ⟨active, path, seen⟩ := h.along.backTo
  obtain ⟨-, joined, walked⟩ := h.closing found
  have nodup : (node :: stack).Nodup := h.along.suffix.sublist.nodup h.along.nodup
  have tail : e.1 = node := by simpa using List.find?_some found
  rw [active] at fresh ⊢
  rw [seen]
  refine ⟨⟨?_, List.nodup_cons.mpr ⟨fresh, nodup⟩, rfl, List.suffix_rfl, joined⟩,
    List.mem_cons_of_mem _ h.begun, fun e' mem => h.among e' (List.mem_of_mem_eraseP mem), walked,
    ?_, ?_⟩
  · exact congrArg (e.2 :: ·) path
  · intro n mem
    rcases List.mem_cons.mp mem with rfl | before
    · exact .inl List.mem_cons_self
    · rcases h.left n before with there | ⟨ends, none_left⟩
      · exact .inl (List.mem_cons_of_mem _ there)
      · exact .inr ⟨ends, fun e' mem' => none_left e' (List.mem_of_mem_eraseP mem')⟩
  · intro e' mem
    rcases h.met e' mem with waiting | ⟨known, place⟩
    · rcases mem_eraseP_of_find? found waiting with rfl | still
      · refine .inr ⟨.inr List.mem_cons_self, .inr ?_⟩
        rw [tail]
        exact List.Sublist.cons_cons _ (List.Sublist.cons_cons _ (List.nil_sublist _))
      · exact .inl still
    · exact .inr ⟨known.imp_right (List.mem_cons_of_mem _), place.imp_right (.cons _)⟩

end Walking

/-- How a search ends.  Either the stack has been used up, or an edge is met that leads back to the
trail. -/
inductive Ending (edges : List Edge) (explored : List Nat) (start : Nat) :
    List Edge ⊕ List Nat → Prop where
  | usedUp {pending : List Edge} {t : Trail} (walking : Walking edges explored start pending [] t) :
      Ending edges explored start (.inr t.seen)
  | closed {pending : List Edge} {node : Nat} {stack : List Nat} {t : Trail} {e : Edge}
      (walking : Walking edges explored start pending (node :: stack) t)
      (found : pending.find? (·.1 = node) = some e) (back : e.2 ∈ (t.backTo node).active) :
      Ending edges explored start (.inl (e :: (t.backTo node).path))

/-- **Run lemma.**  However long the walk goes on, the search ends in one of these ways. -/
theorem ending_of_follow (known : List Nat) {t : Trail} (settled : Settled edges explored)
    (explored_above : ∀ n ∈ known, n ∈ explored) (h : Walking edges explored start pending stack t) :
    Ending edges explored start (Trail.follow explored (depthFirst pending (known ++ stack)) t) := by
  generalize whole : known ++ stack = nodes
  induction pending, nodes using depthFirst.induct generalizing known stack t with
  | case1 pending =>
    obtain ⟨rfl, rfl⟩ := List.append_eq_nil_iff.mp whole
    rw [depthFirst, Trail.follow]
    exact .usedUp h
  | case2 pending node nodes none_left ih =>
    rw [depthFirst_of_none none_left]
    cases known with
    | cons n known =>
      obtain ⟨rfl, rfl⟩ := List.cons.inj whole
      exact ih known (fun m mem => explored_above m (List.mem_cons_of_mem _ mem)) h rfl
    | nil =>
      subst whole
      exact ih [] (fun _ mem => nomatch mem) (h.pop none_left) rfl
  | case3 pending node nodes e found ih =>
    rw [depthFirst_of_some found]
    have tail : e.1 = node := by simpa using List.find?_some found
    cases known with
    | cons n known =>
      obtain ⟨rfl, rfl⟩ := List.cons.inj whole
      have edge : Leads edges n e.2 := tail ▸ h.among e (List.mem_of_find?_eq_some found)
      have head := (settled n (explored_above n List.mem_cons_self)).2 e.2 edge
      simp only [Trail.follow, head, if_true]
      exact ih (e.2 :: n :: known) (by simpa [head] using explored_above)
        (h.pass settled found head) rfl
    | nil =>
      subst whole
      by_cases head : e.2 ∈ explored
      · simp only [Trail.follow, head, if_true]
        exact ih [e.2] (by simpa using head) (h.pass settled found head) rfl
      · simp only [Trail.follow, head, if_false, tail]
        split
        · rename_i back
          exact .closed h found back
        · rename_i fresh
          exact ih [] (fun _ mem => nomatch mem) (h.push found fresh) rfl

/-- A search from a node has one of these ends. -/
theorem ending_of_start (settled : Settled edges explored) (node : Nat) :
    Ending edges explored node
      (Trail.follow explored (depthFirst edges [node]) (.startAt node)) :=
  ending_of_follow [] settled (fun _ mem => nomatch mem) (Walking.startAt edges explored node)

/-- A search that shows no cycle has met its start, and all paths from the nodes it has met end. -/
theorem Ending.settled {seen : List Nat} (settled : Settled edges explored)
    (h : Ending edges explored start (.inr seen)) :
    start ∈ seen ∧ Settled edges (explored ++ seen) := by
  cases h with
  | usedUp h =>
    refine ⟨h.begun, fun n mem => ?_⟩
    rcases List.mem_append.mp mem with before | now
    · obtain ⟨ends, closed⟩ := settled n before
      exact ⟨ends, fun m edge => List.mem_append_left _ (closed m edge)⟩
    · obtain ⟨ends, none_left⟩ := (h.left n now).resolve_left (List.not_mem_nil)
      refine ⟨ends, fun m edge => List.mem_append.mpr ?_⟩
      exact ((h.met (n, m) edge).resolve_left fun waiting => none_left _ waiting rfl).1

/-! ## The search -/

/-- **Run lemma.**  If no search shows a cycle, every path from the nodes ends. -/
theorem ends_of_searchFrom {nodes : List Nat} (settled : Settled edges explored)
    (missed : searchFrom edges explored nodes = none) : ∀ n ∈ nodes, Ends edges n := by
  induction nodes generalizing explored with
  | nil => exact fun n mem => nomatch mem
  | cons node nodes ih =>
    rw [searchFrom] at missed
    intro n mem
    split at missed
    · rename_i known
      rcases List.mem_cons.mp mem with rfl | later
      · exact (settled n known).1
      · exact ih settled missed n later
    · split at missed
      · cases missed
      · rename_i seen followed
        have ending := ending_of_start settled node
        rw [followed] at ending
        obtain ⟨begun, settled'⟩ := ending.settled settled
        rcases List.mem_cons.mp mem with rfl | later
        · exact (settled' n (List.mem_append_right _ begun)).1
        · exact ih settled' missed n later

/-- **The search finds a cycle** when there is one among the nodes. -/
theorem isSome_findCycle? {size : Nat} (inside : ∀ p i, (p, i) ∈ edges → p < size ∧ i < size)
    (cyclic : isAcyclic edges = false) : (findCycle? size edges).isSome = true := by
  rw [findCycle?, Option.isSome_map]
  by_contra missed
  have none_found : searchFrom edges [] (List.range size) = none := by simpa using missed
  have settled : Settled edges [] := fun _ mem => nomatch mem
  have ends := ends_of_searchFrom settled none_found
  have forward : WellFounded (Function.swap (Leads edges)) := by
    refine ⟨fun n => ⟨n, fun m edge => ends m ?_⟩⟩
    exact List.mem_range.mpr (inside n m edge).2
  have acyclic : isAcyclic edges = true := isAcyclic_iff.mpr fun a circle =>
    forward.transGen.irrefl.irrefl a (Relation.transGen_swap.mpr circle)
  rw [acyclic] at cyclic
  cases cyclic

/-! ## The constructor of a tree -/

namespace UpgradeGraph

theorem checkEdges_ne_unfoundCycle {size : Nat} {edges : List (Int × Int)} :
    checkEdges size edges ≠ .error .unfoundCycle := by
  intro h
  obtain ⟨checked, ⟨source, target⟩, -, failed⟩ := of_foldlM_error h
  dsimp only at failed
  split at failed <;> cases failed

theorem checkRoots_ne_unfoundCycle {size : Nat} {edges : List Edge} {roots : List Int} :
    checkRoots size edges roots ≠ .error .unfoundCycle := by
  intro h
  obtain ⟨root, -, failed⟩ := of_mapM_error h
  split at failed
  · cases failed
  · split at failed <;> cases failed

theorem checkPaths_ne_unfoundCycle {size : Nat} {edges : List Edge} {roots : List Nat}
    (inside : ∀ p i, (p, i) ∈ edges → p < size ∧ i < size) :
    checkPaths size edges roots ≠ .error .unfoundCycle := by
  intro h
  unfold checkPaths at h
  split at h
  · rename_i cyclic
    split at h
    · cases h
    · rename_i missed
      have found := isSome_findCycle? inside (by simpa using cyclic)
      rw [missed] at found
      cases found
  · dsimp only at h
    split at h <;> cases h

/-- No tree is turned down for a cycle that the search has not found. -/
theorem checked?_ne_unfoundCycle {nodes : List UpgradeNode} {edges : List (Int × Int)}
    {roots : List Int} : checked? nodes edges roots ≠ .error .unfoundCycle := by
  intro h
  unfold checked? at h
  split at h
  · rename_i m dangling
    obtain rfl := Except.error.inj h
    exact checkEdges_ne_unfoundCycle dangling
  rename_i kept checked
  split at h
  · cases h
  split at h
  · rename_i m bad_root
    obtain rfl := Except.error.inj h
    exact checkRoots_ne_unfoundCycle bad_root
  split at h
  · rename_i m bad_path
    obtain rfl := Except.error.inj h
    exact checkPaths_ne_unfoundCycle (checkEdges_eq_ok checked).2 bad_path
  · cases h

/-- A tree is turned down with a cause, or because the cause cannot be put into words. -/
theorem new?_error {nodes : List UpgradeNode} {edges : List (Int × Int)} {roots : List Int}
    {fault : Fault} (h : new? nodes edges roots = .error fault) :
    (∃ cause, cause ≠ .unfoundCycle ∧ fault = .malformed cause) ∨ fault = .numberTooLong := by
  cases checked : checked? nodes edges roots with
  | ok g => cases h.symm.trans (new?_eq_ok_iff.mpr checked)
  | error cause =>
    obtain rfl := Except.error.inj (h.symm.trans (new?_of_checked?_error checked))
    unfold Fault.ofMalformed
    split
    · refine .inl ⟨cause, ?_, rfl⟩
      rintro rfl
      exact checked?_ne_unfoundCycle checked
    · exact .inr rfl

end UpgradeGraph

end RobotWorkshop
