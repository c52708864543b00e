import PhotoGallery.Proofs.Gallery.Reachability

/-!
# Depth-first order

The recursive visit of a graph goes through a list of nodes in turn.  A node that was
met before is skipped; any other is recorded, and what is below it is visited before the
next node.  The walk with its stack and its marks records the same nodes in the same
order.
-/

namespace PhotoGallery

/-- The nodes that a visit of a list records, when those in `seen` were met before. -/
inductive DepthFirst {α : Type} (children : α → List α) :
    (seen nodes order : List α) → Prop
  | done (seen : List α) : DepthFirst children seen [] []
  | skip {seen : List α} {node : α} {later order : List α} (old : node ∈ seen)
      (rest : DepthFirst children seen later order) :
      DepthFirst children seen (node :: later) order
  | enter {seen : List α} {node : α} {later below order : List α} (fresh : node ∉ seen)
      (inner : DepthFirst children (seen ++ [node]) (children node) below)
      (rest : DepthFirst children (seen ++ node :: below) later order) :
      DepthFirst children seen (node :: later) (node :: below ++ order)

namespace DepthFirst

variable {α β : Type} {children : α → List α} {seen nodes order : List α}

/-- There is only one depth-first order. -/
theorem unique {other : List α} (visited : DepthFirst children seen nodes order)
    (otherwise : DepthFirst children seen nodes other) : order = other := by
  induction visited generalizing other with
  | done seen =>
      cases otherwise
      rfl
  | skip old rest ih =>
      cases otherwise with
      | skip _ otherRest => exact ih otherRest
      | enter fresh _ _ => exact absurd old fresh
  | enter fresh inner rest innerIH restIH =>
      cases otherwise with
      | skip old _ => exact absurd old fresh
      | enter _ otherInner otherRest =>
          obtain rfl := innerIH otherInner
          rw [restIH otherRest]

/-- Visiting two lists, one after the other. -/
theorem append_split {first second : List α}
    (visited : DepthFirst children seen (first ++ second) order) :
    ∃ before after, order = before ++ after ∧ DepthFirst children seen first before ∧
      DepthFirst children (seen ++ before) second after := by
  induction first generalizing seen order with
  | nil =>
      refine ⟨[], order, rfl, done seen, ?_⟩
      simpa using visited
  | cons node first ih =>
      cases visited with
      | skip old rest =>
          obtain ⟨before, after, rfl, firstVisited, secondVisited⟩ := ih rest
          exact ⟨before, after, rfl, skip old firstVisited, secondVisited⟩
      | @enter _ _ _ below _ fresh inner rest =>
          obtain ⟨before, after, rfl, firstVisited, secondVisited⟩ := ih rest
          refine ⟨node :: below ++ before, after, by simp, enter fresh inner firstVisited, ?_⟩
          simpa using secondVisited

/-- A visit meets only what is below the nodes that it starts from. -/
theorem reached (visited : DepthFirst children seen nodes order) :
    ∀ node ∈ order, ∃ start ∈ nodes,
      Relation.ReflTransGen (fun parent child => child ∈ children parent) start node := by
  induction visited with
  | done seen => simp
  | skip old rest ih =>
      intro node member
      obtain ⟨start, isStart, path⟩ := ih node member
      exact ⟨start, List.mem_cons_of_mem _ isStart, path⟩
  | @enter seen first later below order fresh inner rest innerIH restIH =>
      intro node member
      rcases List.mem_append.mp member with here | after
      · rcases List.mem_cons.mp here with rfl | inside
        · exact ⟨node, List.mem_cons_self, Relation.ReflTransGen.refl⟩
        · obtain ⟨start, isChild, path⟩ := innerIH node inside
          exact ⟨first, List.mem_cons_self, Relation.ReflTransGen.head isChild path⟩
      · obtain ⟨start, isStart, path⟩ := restIH node after
        exact ⟨start, List.mem_cons_of_mem _ isStart, path⟩

/-- After a visit its nodes, and the children of what it recorded, are all met. -/
theorem closed (visited : DepthFirst children seen nodes order) :
    (∀ node ∈ nodes, node ∈ seen ++ order) ∧
      ∀ parent ∈ order, ∀ child ∈ children parent, child ∈ seen ++ order := by
  induction visited with
  | done seen => simp
  | @skip seen first later order old rest ih =>
      refine ⟨?_, ih.2⟩
      intro node member
      rcases List.mem_cons.mp member with rfl | further
      · exact List.mem_append_left _ old
      · exact ih.1 node further
  | @enter seen first later below order fresh inner rest innerIH restIH =>
      have whole : seen ++ (first :: below ++ order) = (seen ++ first :: below) ++ order := by
        simp
      have metInside : ∀ node ∈ (seen ++ [first]) ++ below,
          node ∈ (seen ++ first :: below) ++ order := by
        intro node member
        apply List.mem_append_left
        simpa using member
      rw [whole]
      constructor
      · intro node member
        rcases List.mem_cons.mp member with rfl | further
        · simp
        · exact restIH.1 node further
      · intro parent member child isChild
        rcases List.mem_append.mp member with here | after
        · rcases List.mem_cons.mp here with rfl | inside
          · exact metInside child (innerIH.1 child isChild)
          · exact metInside child (innerIH.2 parent inside child isChild)
        · exact restIH.2 parent after child isChild

/-- A visit from the start records exactly what its nodes reach. -/
theorem mem_iff (visited : DepthFirst children [] nodes order) {node : α} :
    node ∈ order ↔ ∃ start ∈ nodes,
      Relation.ReflTransGen (fun parent child => child ∈ children parent) start node := by
  refine ⟨visited.reached node, ?_⟩
  rintro ⟨start, isStart, path⟩
  induction path with
  | refl => exact visited.closed.1 start isStart
  | tail _ isChild ih => exact visited.closed.2 _ ih _ isChild

/-- A renaming of nodes that keeps children and tells the visited nodes apart keeps the
order. -/
theorem map (otherChildren : β → List β) (rename : α → β) (Known : α → Prop)
    (closed : ∀ node, Known node → ∀ child ∈ children node, Known child)
    (injective : ∀ first second, Known first → Known second →
      rename first = rename second → first = second)
    (sameChildren : ∀ node, Known node →
      (children node).map rename = otherChildren (rename node))
    (visited : DepthFirst children seen nodes order)
    (knownSeen : ∀ node ∈ seen, Known node) (knownNodes : ∀ node ∈ nodes, Known node) :
    (∀ node ∈ order, Known node) ∧
      DepthFirst otherChildren (seen.map rename) (nodes.map rename) (order.map rename) := by
  induction visited with
  | done seen => exact ⟨by simp, done _⟩
  | @skip seen node later order old rest ih =>
      obtain ⟨known, renamed⟩ := ih knownSeen
        fun other member => knownNodes other (List.mem_cons_of_mem _ member)
      exact ⟨known, skip (List.mem_map_of_mem old) renamed⟩
  | @enter seen node later below order fresh inner rest innerIH restIH =>
      have knownNode : Known node := knownNodes node List.mem_cons_self
      have stillFresh : rename node ∉ seen.map rename := by
        intro met
        obtain ⟨other, member, same⟩ := List.mem_map.mp met
        exact fresh (injective other node (knownSeen other member) knownNode same ▸ member)
      obtain ⟨knownBelow, renamedInner⟩ := innerIH
        (by simpa [or_imp, forall_and, knownNode] using knownSeen) (closed node knownNode)
      have knownMet : ∀ other ∈ seen ++ node :: below, Known other := by
        intro other member
        rcases List.mem_append.mp member with old | new
        · exact knownSeen other old
        · rcases List.mem_cons.mp new with rfl | inside
          · exact knownNode
          · exact knownBelow other inside
      obtain ⟨knownLater, renamedRest⟩ := restIH knownMet
        fun other member => knownNodes other (List.mem_cons_of_mem _ member)
      constructor
      · intro other member
        rcases List.mem_append.mp member with here | later
        · exact knownMet other (List.mem_append_right _ here)
        · exact knownLater other later
      · rw [List.map_append, List.map_cons, List.map_cons]
        apply enter stillFresh
        · simpa [sameChildren node knownNode] using renamedInner
        · simpa using renamedRest

end DepthFirst

namespace Gallery

variable {gallery : Gallery}

/-- The walk records the depth-first order of what is pending. -/
theorem Visiting.depthFirst {marks : Array Bool} {order : Array AlbumId} {stack : List AlbumId}
    (visiting : gallery.Visiting marks order stack) (inArena : gallery.InArena) :
    ∃ later, (gallery.visit marks order stack).toList = order.toList ++ later ∧
      DepthFirst gallery.children order.toList stack later := by
  fun_induction Gallery.visit gallery marks order stack with
  | case1 marks order => exact ⟨[], by simp, DepthFirst.done _⟩
  | case2 marks order id stack fresh ih =>
      obtain ⟨later, recorded, visited⟩ := ih (visiting.record inArena fresh.1 fresh.2)
      obtain ⟨below, after, rfl, inner, rest⟩ := visited.append_split
      have isNew : id ∉ order.toList := by
        rw [Array.mem_toList_iff, ← visiting.marked, Array.getElem?_eq_getElem fresh.1, fresh.2]
        simp
      rw [Array.toList_push] at recorded inner rest
      refine ⟨id :: below ++ after, by simpa using recorded, ?_⟩
      exact DepthFirst.enter isNew inner (by simpa using rest)
  | case3 marks order id stack stale ih =>
      have old := visiting.recorded stale
      obtain ⟨later, recorded, visited⟩ := ih (visiting.skip old)
      exact ⟨later, recorded, DepthFirst.skip (Array.mem_toList_iff.mpr old) visited⟩

/-- The reachable albums come in the depth-first order from the roots. -/
theorem depthFirst_reachable (inArena : gallery.InArena) :
    DepthFirst gallery.children [] gallery.roots.toList gallery.reachable.toList := by
  obtain ⟨later, recorded, visited⟩ := (visiting_start inArena).depthFirst inArena
  rw [reachable, recorded]
  exact visited

/-- The walk with its stack gives what the recursive visit of the roots records, so every
album below a root comes once, and nothing else does. -/
theorem reachable_is_preorder (inArena : gallery.InArena) :
    (∀ order, DepthFirst gallery.children [] gallery.roots.toList order ↔
        gallery.reachable.toList = order) ∧
      gallery.reachable.toList.Nodup ∧
      (∀ id ∈ gallery.reachable, ∃ album, gallery.get? id = some album) ∧
      ∀ id, id ∈ gallery.reachable ↔
        ∃ root ∈ gallery.roots, Relation.ReflTransGen gallery.Lists root id := by
  have visited := depthFirst_reachable inArena
  refine ⟨fun order => ⟨visited.unique, fun same => same ▸ visited⟩,
    nodup_reachable inArena, ?_, fun id => mem_reachable_iff inArena⟩
  intro id met
  have inside := index_lt_of_mem_reachable inArena met
  exact ⟨gallery.albums[id.index], Array.getElem?_eq_getElem inside⟩

/-- An album lists another one twice, itself, and one that lists the first again; a
subalbum is a root as well, and an album that lists only itself is out of reach. -/
theorem reachable_is_preorder_tangled :
    let tangled : Gallery :=
      { title := "Jail"
        description := ""
        roots := #[⟨0⟩, ⟨2⟩]
        albums := #[⟨"a", "", "", #[⟨1⟩, ⟨1⟩, ⟨0⟩, ⟨2⟩], #[]⟩, ⟨"b", "", "", #[⟨3⟩, ⟨0⟩], #[]⟩,
          ⟨"c", "", "", #[], #[]⟩, ⟨"d", "", "", #[⟨2⟩], #[]⟩, ⟨"e", "", "", #[⟨4⟩], #[]⟩] }
    tangled.InArena ∧
      DepthFirst tangled.children [] tangled.roots.toList [⟨0⟩, ⟨1⟩, ⟨3⟩, ⟨2⟩] ∧
      ¬ ∃ root ∈ tangled.roots, Relation.ReflTransGen tangled.Lists root ⟨4⟩ := by
  intro tangled
  have inArena : tangled.InArena := ⟨by decide, by decide⟩
  have reachable : tangled.reachable = #[⟨0⟩, ⟨1⟩, ⟨3⟩, ⟨2⟩] := by
    simp [reachable, visit, children, get?, tangled]
  obtain ⟨preorder, -, -, exact⟩ := reachable_is_preorder inArena
  refine ⟨inArena, (preorder _).mpr (by rw [reachable]), ?_⟩
  rw [← exact, reachable]
  simp

end Gallery

end PhotoGallery
