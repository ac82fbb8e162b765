import DocConsole.Fault

/-!
# The current connection

At most one store is connected at a time, and connecting another one closes it first.  Stores are
told apart by a name; the connection knows which of them were closed.  Connecting goes in three
steps, so that others can come in between: the current store is taken out, it is closed, and the
new one is put in.
-/

set_option autoImplicit false

namespace DocConsole

/-- The stores that were named so far and the one that is connected. -/
structure Connection where
  /-- The names of the stores with whether they are open, in order of name. -/
  stores : List (String × Bool)
  /-- The connected store. -/
  current : Option String
  deriving DecidableEq, Repr

namespace Connection

/-- No stores, and none connected. -/
def initial : Connection :=
  ⟨[], none⟩

/-- Whether a store is open. -/
def isOpen (c : Connection) (name : String) : Bool :=
  (c.stores.lookup name).getD false

/-- Whether there is a connected store that is open. -/
def connected (c : Connection) : Bool :=
  match c.current with
  | some name => c.isOpen name
  | none => false

/-- The connected store, which must be open. -/
def live (c : Connection) : Except Fault String :=
  match c.current with
  | some name => if c.isOpen name then .ok name else .error .notConnected
  | none => .error .notConnected

/-- A store named for the first time is open. -/
def mention (c : Connection) (name : String) : Connection :=
  { c with stores := insert name c.stores }
where
  /-- A name put into a list in order, unless it is there. -/
  insert (name : String) : List (String × Bool) → List (String × Bool)
    | [] => [(name, true)]
    | (name', open') :: rest =>
        if name' = name then (name', open') :: rest
        else if name < name' then (name, true) :: (name', open') :: rest
        else (name', open') :: insert name rest

/-- A store closed. -/
def close (c : Connection) (name : String) : Connection :=
  { c with stores := c.stores.map (fun entry =>
      if entry.1 = name then (entry.1, false) else entry) }

/-- The current store taken out. -/
def detach (c : Connection) : Connection × Option String :=
  ({ c with current := none }, c.current)

/-- A store put in. -/
def install (c : Connection) (name : String) : Connection :=
  { c with current := some name }

/-- The current store taken out and closed. -/
def disconnect (c : Connection) : Connection :=
  match c.detach with
  | (c', some name) => c'.close name
  | (c', none) => c'

/-- Another store connected in the place of the current one. -/
def connect (c : Connection) (name : String) : Connection :=
  c.disconnect.install name

end Connection

end DocConsole
