import ClassHarvest.Proofs.CSharp.CallOrder

/-!
# The walk through a tree

A node is found at its place in the tree: level by level, the number of nodes in front of the branch
that leads to it.  The walk, which keeps a stack, comes to the nodes in the order in which a recursion
through the tree lists their places, and gives each the namespace that can be read off its place.
-/

namespace ClassHarvest.CSharp

/-! ## Places -/

/-- The node at a place below a node; the node itself is at the empty place. -/
def Node.at? (node : Node) : List Nat → Option Node
  | [] => some node
  | i :: below => node.children[i]?.bind (·.at? below)

/-- The node at a place among some nodes and what they enclose. -/
def nodeAt? (nodes : List Node) : List Nat → Option Node
  | [] => none
  | i :: below => nodes[i]?.bind (·.at? below)

mutual

/-- The places below a node in the order of a recursion: first its own, then those in what it
encloses. -/
def Node.places : Node → List (List Nat)
  | .invocation _ _ _ children | .classDeclaration _ _ _ children | .namespaceBlock _ children
  | .conditional children => [] :: placesFrom 0 children
  | .namespaceHeader _ => [[]]

/-- The places in nodes that have some number of nodes in front of them, from the first node to the
last. -/
def placesFrom (before : Nat) : List Node → List (List Nat)
  | [] => []
  | node :: rest => node.places.map (before :: ·) ++ placesFrom (before + 1) rest

end

theorem Node.places_eq (node : Node) : node.places = [] :: placesFrom 0 node.children := by
  cases node <;> rfl

/-- What holds of nodes if it holds of what the first of them encloses, and of the others, holds of all
nodes. -/
@[elab_as_elim]
theorem nodes_induction {motive : List Node → Prop} (nil : motive [])
    (cons : ∀ node rest, motive node.children → motive rest → motive (node :: rest))
    (nodes : List Node) : motive nodes :=
  @Node.rec_1 (fun node => motive node.children) motive (fun _ _ _ _ inside => inside)
    (fun _ _ _ _ inside => inside) (fun _ _ inside => inside) (fun _ => nil)
    (fun _ inside => inside) nil cons nodes

section

variable {before : Nat} {nodes : List Node} {place : List Nat}

theorem mem_placesFrom_iff : place ∈ placesFrom before nodes ↔
    ∃ i below, place = (before + i) :: below ∧
      ∃ node, nodes[i]? = some node ∧ below ∈ node.places := by
  induction nodes generalizing before with
  | nil => simp [placesFrom]
  | cons first rest ih =>
      rw [placesFrom, List.mem_append, List.mem_map, ih]
      constructor
      · rintro (⟨below, mem, rfl⟩ | ⟨i, below, rfl, isBehind⟩)
        · exact ⟨0, below, rfl, first, rfl, mem⟩
        · exact ⟨i + 1, below, by rw [Nat.add_right_comm, Nat.add_assoc], isBehind⟩
      · rintro ⟨i, below, rfl, node, isNode, mem⟩
        cases i with
        | zero =>
            cases isNode
            exact .inl ⟨below, mem, rfl⟩
        | succ i =>
            exact .inr ⟨i, below, by rw [Nat.add_right_comm, Nat.add_assoc], node, isNode, mem⟩

theorem cons_mem_placesFrom_iff {i : Nat} {below : List Nat} :
    i :: below ∈ placesFrom 0 nodes ↔ ∃ node, nodes[i]? = some node ∧ below ∈ node.places := by
  rw [mem_placesFrom_iff]
  constructor
  · rintro ⟨j, below', same, found⟩
    obtain ⟨rfl, rfl⟩ := List.cons.inj same
    rwa [Nat.zero_add]
  · exact fun found => ⟨i, below, by rw [Nat.zero_add], found⟩

theorem nil_not_mem_placesFrom : [] ∉ placesFrom before nodes := by
  rw [mem_placesFrom_iff]
  rintro ⟨i, below, same, _⟩
  cases same

theorem Node.mem_places_iff {node : Node} :
    place ∈ node.places ↔ ∃ found, node.at? place = some found := by
  induction place generalizing node with
  | nil =>
      rw [node.places_eq]
      exact iff_of_true List.mem_cons_self ⟨node, rfl⟩
  | cons i below ih =>
      rw [node.places_eq, List.mem_cons, or_iff_right (List.cons_ne_nil _ _),
        cons_mem_placesFrom_iff, Node.at?]
      simp only [ih, Option.bind_eq_some_iff]
      exact ⟨fun ⟨child, isChild, found, isFound⟩ => ⟨found, child, isChild, isFound⟩,
        fun ⟨found, child, isChild, isFound⟩ => ⟨child, isChild, found, isFound⟩⟩

/-- The recursion lists the places at which there is a node. -/
theorem mem_placesFrom_zero_iff :
    place ∈ placesFrom 0 nodes ↔ ∃ node, nodeAt? nodes place = some node := by
  cases place with
  | nil => exact iff_of_false nil_not_mem_placesFrom nofun
  | cons i below =>
      rw [cons_mem_placesFrom_iff, nodeAt?]
      simp only [Node.mem_places_iff, Option.bind_eq_some_iff]
      exact ⟨fun ⟨node, isNode, found, isFound⟩ => ⟨found, node, isNode, isFound⟩,
        fun ⟨found, node, isNode, isFound⟩ => ⟨node, isNode, found, isFound⟩⟩

/-- The recursion lists a place behind those around it and behind those to its left. -/
theorem pairwise_placesFrom (before : Nat) (nodes : List Node) :
    (placesFrom before nodes).Pairwise (· < ·) := by
  induction nodes using nodes_induction generalizing before with
  | nil => exact .nil
  | cons node rest inside behind =>
      have own : node.places.Pairwise (· < ·) := by
        rw [node.places_eq, List.pairwise_cons]
        refine ⟨fun place mem => ?_, inside 0⟩
        obtain ⟨i, below, rfl, _⟩ := mem_placesFrom_iff.mp mem
        exact List.nil_lt_cons _ _
      rw [placesFrom, List.pairwise_append, List.pairwise_map]
      refine ⟨own.imp fun lt => List.cons_lt_cons_iff.mpr (.inr ⟨rfl, lt⟩), behind _, ?_⟩
      intro place mem other mem'
      obtain ⟨below, _, rfl⟩ := List.mem_map.mp mem
      obtain ⟨i, below', rfl, _⟩ := mem_placesFrom_iff.mp mem'
      exact List.cons_lt_cons_iff.mpr (.inl (by omega))

end

/-! ## Namespaces -/

/-- The name of a namespace for all that follows. -/
def Node.headerName? : Node → Option Span
  | .namespaceHeader name => some name
  | _ => none

/-- The name of a namespace with a body. -/
def Node.blockName? : Node → Option Span
  | .namespaceBlock name _ => some name
  | _ => none

/-- The name of the last header among some nodes. -/
def lastHeader? (nodes : List Node) : Option Span :=
  (nodes.filterMap Node.headerName?).getLast?

/-- The names of the namespaces around a place, from the outside in: at each level that of the last
header at or before the branch that leads there, and that of the branch if it is a namespace with a
body. -/
def namespacesAt (nodes : List Node) : List Nat → List Span
  | [] => []
  | i :: below =>
    (lastHeader? (nodes.take (i + 1))).toList ++
      nodes[i]?.toList.flatMap fun node =>
        node.blockName?.toList ++ namespacesAt node.children below

/-- Names with dots between them; empty ones are left out. -/
def dotted (names : List Text) : Text :=
  Text.join "." (names.filter fun name => !name.isEmpty)

theorem joinNamespace_nil (outer : Text) : joinNamespace outer [] = outer := by
  cases outer <;> rfl

theorem joinNamespace_assoc (a b c : Text) :
    joinNamespace (joinNamespace a b) c = joinNamespace a (joinNamespace b c) := by
  cases a with
  | nil => rfl
  | cons x a =>
      cases b with
      | nil => rfl
      | cons y b =>
          cases c with
          | nil => rw [joinNamespace_nil, joinNamespace_nil]
          | cons z c => simp [joinNamespace]

theorem dotted_cons (name : Text) (names : List Text) :
    dotted (name :: names) = joinNamespace name (dotted names) := by
  unfold dotted
  cases name with
  | nil => rfl
  | cons c name =>
      rw [List.filter_cons_of_pos (by rfl)]
      cases others : names.filter fun name => !name.isEmpty with
      | nil => rfl
      | cons next rest =>
          -- The next name is not empty, so what is joined behind the dot is not.
          have mem : next ∈ names.filter fun name => !name.isEmpty := others ▸ List.mem_cons_self
          have isName : next ≠ [] := by simpa using (List.mem_filter.mp mem).2
          have nonempty : (Text.join "." (next :: rest)).isEmpty = false := by
            cases rest <;> simp [Text.join, isName]
          have cut : Text.join "." ((c :: name) :: next :: rest) =
              (c :: name) ++ ('.' : CodePoint) :: Text.join "." (next :: rest) :=
            List.append_assoc _ _ _
          rw [cut, joinNamespace, nonempty]
          rfl

theorem dotted_append (names others : List Text) :
    dotted (names ++ others) = joinNamespace (dotted names) (dotted others) := by
  induction names with
  | nil => rfl
  | cons name names ih =>
      rw [List.cons_append, dotted_cons, ih, dotted_cons, joinNamespace_assoc]

theorem dotted_singleton (name : Text) : dotted [name] = name :=
  (dotted_cons name []).trans (joinNamespace_nil name)

/-! ## The walk -/

section

variable (nameOf : Span → Text) (outer : Text)

/-- The namespace of what follows some nodes. -/
def spaceBehind (front : List Node) : Text :=
  joinNamespace outer (dotted ((lastHeader? front).toList.map nameOf))

/-- The node at a place with its namespace, where a namespace is around all nodes. -/
def entryIn? (nodes : List Node) (place : List Nat) : Option (Node × Text) :=
  (nodeAt? nodes place).map fun node =>
    (node, joinNamespace outer (dotted ((namespacesAt nodes place).map nameOf)))

theorem spaceBehind_nil : spaceBehind nameOf outer [] = outer :=
  joinNamespace_nil outer

theorem lastHeader?_concat (front : List Node) (node : Node) :
    lastHeader? (front ++ [node]) = node.headerName?.or (lastHeader? front) := by
  rw [lastHeader?, List.filterMap_append, List.getLast?_append]
  cases isHeader : node.headerName? <;> simp [isHeader, lastHeader?]

/-- The first of some nodes, in front of which others stand, is in the namespace behind these and
itself, and in its own if it is one with a body. -/
theorem inScope_cons (front : List Node) (node : Node) (rest : List Node) :
    let space := spaceBehind nameOf outer (front ++ [node])
    inScope nameOf outer (spaceBehind nameOf outer front) (node :: rest) =
      (node, joinNamespace space (dotted (node.blockName?.toList.map nameOf))) ::
        inScope nameOf outer space rest := by
  intro space
  have isSpace : space = spaceBehind nameOf outer (front ++ [node]) := rfl
  rw [spaceBehind, lastHeader?_concat] at isSpace
  cases node with
  | namespaceHeader name =>
      have joined : space = joinNamespace outer (nameOf name) :=
        isSpace.trans (congrArg _ (dotted_singleton _))
      rw [inScope, ← joined]
      exact congrArg (fun space' => (_, space') :: _) (joinNamespace_nil space).symm
  | namespaceBlock name children =>
      have same : space = spaceBehind nameOf outer front := isSpace
      rw [inScope, ← same]
      exact congrArg (fun name' => (_, joinNamespace space name') :: _) (dotted_singleton _).symm
  | _ =>
      have same : space = spaceBehind nameOf outer front := isSpace
      rw [inScope, ← same]
      · exact congrArg (fun space' => (_, space') :: _) (joinNamespace_nil space).symm
      · intro name absurd
        cases absurd
      · intro name children absurd
        cases absurd

theorem visit_cons (entry : Node × Text) (pending : List (Node × Text)) :
    visit nameOf (entry :: pending) =
      entry :: (visit nameOf (enclosed nameOf entry) ++ visit nameOf pending) := by
  rw [visit, visit_append]

/-- The namespaces around a place are those at the branch and those inside it. -/
theorem namespacesAt_length (front : List Node) (node : Node) (rest : List Node) (below : List Nat) :
    namespacesAt (front ++ node :: rest) (front.length :: below) =
      (lastHeader? (front ++ [node])).toList ++
        (node.blockName?.toList ++ namespacesAt node.children below) := by
  have upTo : (front ++ node :: rest).take (front.length + 1) = front ++ [node] := by
    rw [List.take_length_add_append]
    rfl
  have isNode : (front ++ node :: rest)[front.length]? = some node := by simp
  rw [namespacesAt, upTo, isNode]
  simp

/-- What is at a place in a node is in the namespace of the node and in those inside it. -/
theorem entryIn?_length (front : List Node) (node : Node) (rest : List Node) (below : List Nat) :
    let space := joinNamespace (spaceBehind nameOf outer (front ++ [node]))
      (dotted (node.blockName?.toList.map nameOf))
    entryIn? nameOf outer (front ++ node :: rest) (front.length :: below) =
      (node.at? below).map fun found =>
        (found, joinNamespace space (dotted ((namespacesAt node.children below).map nameOf))) := by
  intro space
  have isNode : (front ++ node :: rest)[front.length]? = some node := by simp
  rw [entryIn?, nodeAt?, isNode, Option.bind_some, namespacesAt_length, List.map_append,
    List.map_append, dotted_append, dotted_append, ← joinNamespace_assoc, ← joinNamespace_assoc]
  rfl

/-- The walk through nodes, in front of which others stand, comes to them and to what they enclose in
the order of the recursion. -/
theorem visit_inScope (front nodes : List Node) :
    (visit nameOf (inScope nameOf outer (spaceBehind nameOf outer front) nodes)).map some =
      (placesFrom front.length nodes).map (entryIn? nameOf outer (front ++ nodes)) := by
  -- What a node encloses has nothing in front of it; what follows the node has one node more.
  induction nodes using nodes_induction generalizing outer front with
  | nil =>
      rw [inScope, visit]
      rfl
  | cons node rest inside behind =>
      let space := joinNamespace (spaceBehind nameOf outer (front ++ [node]))
        (dotted (node.blockName?.toList.map nameOf))
      have ofInside := inside space []
      rw [spaceBehind_nil, List.length_nil, List.nil_append] at ofInside
      have ofRest := behind outer (front ++ [node])
      rw [List.length_append, List.length_singleton, List.append_assoc, List.singleton_append] at ofRest
      rw [inScope_cons, visit_cons, placesFrom, node.places_eq, List.map_cons, List.map_append, ofRest,
        List.map_append, List.map_cons, List.map_cons, entryIn?_length, List.map_map]
      change _ :: ((visit nameOf (inScope nameOf space space node.children)).map some ++ _) = _
      rw [ofInside, List.cons_append]
      congr 1
      · exact congrArg (fun space' => some (node, space')) (joinNamespace_nil space).symm
      congr 1
      apply List.map_congr_left
      intro place mem
      cases place with
      | nil => exact absurd mem nil_not_mem_placesFrom
      | cons i below => exact (entryIn?_length nameOf outer front node rest (i :: below)).symm

end

/-- A header is replaced by the next one beside it, and counts for what a directive governs but not the
other way round. -/
example (a b c : Span) :
    let nodes := [Node.namespaceHeader a, .conditional [.namespaceHeader b, .conditional []],
      .namespaceHeader c, .conditional []]
    namespacesAt nodes [1, 1] = [a, b] ∧ namespacesAt nodes [3] = [c] :=
  ⟨rfl, rfl⟩

/-! ## Source units -/

/-- The node at a place with its namespace. -/
def entryAt? (nameOf : Span → Text) (nodes : List Node) (place : List Nat) : Option (Node × Text) :=
  (nodeAt? nodes place).map fun node => (node, dotted ((namespacesAt nodes place).map nameOf))

/-- The invocation at a place. -/
def invocationAt? (nodes : List Node) (place : List Nat) : Option Invocation :=
  (nodeAt? nodes place).bind Node.invocation?

theorem filterMap_visit {β : Type} (nameOf : Span → Text) (nodes : List Node)
    (f : Node × Text → Option β) :
    (visit nameOf (inScope nameOf [] [] nodes)).filterMap f =
      (placesFrom 0 nodes).filterMap fun place => (entryAt? nameOf nodes place).bind f := by
  have walk : (visit nameOf (inScope nameOf [] [] nodes)).map some =
      (placesFrom 0 nodes).map (entryAt? nameOf nodes) := visit_inScope nameOf [] [] nodes
  have both := congrArg (List.filterMap (Option.bind · f)) walk
  rwa [List.filterMap_map, List.filterMap_map] at both

end ClassHarvest.CSharp
