import CodeAtlas.Shell.Variables

/-!
# Redirections

Where the streams of a process are led.
-/

namespace CodeAtlas

namespace Shell

/-- The reason in a fault, without its number. -/
def reason (f : IoFault) : String :=
  String.ofList ((f.message.toList.takeWhile (· != '(')).reverse.dropWhile (· == ' ')).reverse

/-- Whether a path leads nowhere. -/
def leadsNowhere (f : IoFault) : Bool := f == .noEntry || f == .notDirectory

/-- Connects a stream of the process. -/
def connect (number : Nat) (c : Channel) : Run Unit :=
  change fun p => { p with streams := p.streams.insert number c }

/-- The size of a file that has no end. -/
def boundless : Nat := 0x10000000000

/-- What a stream that is led to a file of the system becomes. -/
def systemChannel? (p : Process) (path : Path) : Option (Option Channel) :=
  match path.text with
  | "/dev/null" => some (some (.sink .nothing))
  | "/dev/stdin" => some (p.streams.get? 0)
  | "/dev/stdout" => some (p.streams.get? 1)
  | "/dev/stderr" => some (p.streams.get? 2)
  | "/dev/fd/0" => some (p.streams.get? 0)
  | "/dev/fd/1" => some (p.streams.get? 1)
  | "/dev/fd/2" => some (p.streams.get? 2)
  | _ => none

/-- Opens a file for writing. -/
def openOutput (number : Nat) (file : String) (direction : Direction) : Trying Unit := do
  let m ← get
  let path := m.self.cwd.join ⟨file⟩
  match systemChannel? m.self path with
  | some (some c) => connect number c
  | some none => refuse ("cannot create " ++ file ++ ": No such device or address")
  | none =>
    let there := m.world.disk.read path
    if direction == .write && m.self.has 'C' && there.isOk then
      refuse ("cannot create " ++ file ++ ": File exists")
    else
      let before := match there with
        | .ok c => if direction == .append || direction == .readWrite then c else ⟨[], 0⟩
        | .error _ => ⟨[], 0⟩
      match m.world.disk.write path before with
      | .ok d =>
        changeDisk fun _ => d
        connect number (.sink (.file path))
      | .error fault =>
        refuse ("cannot create " ++ file ++ ": "
          ++ if leadsNowhere fault then "Directory nonexistent" else reason fault)

/-- Opens a file for reading. -/
def openInput (number : Nat) (file : String) : Trying Unit := do
  let m ← get
  let path := m.self.cwd.join ⟨file⟩
  match systemChannel? m.self path with
  | some (some (.sink .nothing)) => connect number (.source (← openSource []))
  | some (some c) => connect number c
  | _ =>
    match m.world.disk.read path with
    | .ok c =>
      let n ← openSource c.toBytes
      changeWorld fun w => { w with files := n :: w.files }
      connect number (.source n)
    | .error fault =>
      if m.world.disk.isFolder path then connect number (.source folderSource)
      else
        refuse ("cannot open " ++ file ++ ": "
          ++ if leadsNowhere fault then "No such file" else reason fault)

/-- Leads a stream to where another one is led. -/
def copyStream (number : Nat) (target : String) : Trying Unit := do
  match target.toList with
  | ['-'] => change fun p => { p with streams := p.streams.erase number }
  | [c] =>
    if c.isDigit then
      match (← get).self.streams.get? (c.toNat - 48) with
      | some channel => connect number channel
      | none => refuse (target ++ ": Bad file descriptor")
    else refuse "Syntax error: Bad fd number"
  | _ => refuse "Syntax error: Bad fd number"

/-- **Leads a stream**, with the text that the word of a redirection stands for. -/
def leadStream (number : Nat) (direction : Direction) (target : String) : Trying Unit := do
  match direction with
  | .read => openInput number target
  | .readWrite =>
    openOutput number target direction
    if number == 0 then openInput number target
  | .copyIn => copyStream number target
  | .copyOut => copyStream number target
  | .here => connect number (.source (← openSource (Bytes.ofText target)))
  | _ => openOutput number target direction

end Shell

end CodeAtlas
