import Wasmer.Wasi.Types
import Wasmer.Wasi.Arena
import Wasmer.Wasi.State
import Wasmer.Wasi.Symlink
import Wasmer.Wasi.Init
import Wasmer.Wasi.Run
import Wasmer.Wasi.Descriptors
import Wasmer.Wasi.Flush
import Wasmer.Wasi.Guest
import Wasmer.Api.Memory
