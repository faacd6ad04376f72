/-! Keys, and the terminal events they come from. -/
namespace Tether

inductive KeyCode where
  | char (c : Char)
  | escape | backspace | delete | left | right | up | down | home | «end» | tab | backTab | enter
  deriving DecidableEq, Repr

structure Key where
  code : KeyCode
  ctrl : Bool := false
  alt : Bool := false
  shift : Bool := false
  deriving DecidableEq, Repr

def Key.char (c : Char) : Key := ⟨.char c, false, false, false⟩

def Key.isPlain (k : Key) : Bool := !k.ctrl && !k.alt

inductive EventCode where
  | key (code : KeyCode)
  | insert | pageUp | pageDown | null | capsLock
  | function (n : Nat)
  deriving DecidableEq, Repr

structure KeyEvent where
  code : EventCode
  ctrl : Bool
  alt : Bool
  shift : Bool
  super : Bool

/-- The key of an event. A tab with shift is a backward tab, and the super modifier is ignored. -/
def Key.ofEvent? (e : KeyEvent) : Option Key :=
  match e.code with
  | .key code =>
    let code := if code = .tab ∧ e.shift then .backTab else code
    some ⟨code, e.ctrl, e.alt, e.shift⟩
  | _ => none

end Tether
