import ChatArchive.Server.Process

open ChatArchive

def readBytes (path : String) : IO (Option ByteArray) := do
  try
    return some (← IO.FS.readBinFile path)
  catch _ =>
    return none

-- Runs the server command.
def main : IO UInt32 := do
  let mut env : List (String × String) := []
  for name in Server.environmentNames do
    if let some v ← IO.getEnv name then
      env := env ++ [(name, v)]
  let envFile ← readBytes ".env"
  let mut files : List (String × ByteArray) := []
  if let some b := envFile then
    files := [(".env", b)]
  for path in Server.filesRead env (envFile.bind String.fromUTF8?) do
    if let some b ← readBytes path then
      files := files ++ [(path, b)]
  let exit := Server.run ⟨env, Disk.make "." files [], [], 0, .interrupt⟩
  for line in exit.log do
    IO.println line
  IO.eprint exit.stderr
  return exit.code.toUInt32
