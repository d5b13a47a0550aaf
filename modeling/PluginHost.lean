import PluginHost.Backend.LuaPlugin
import PluginHost.Backend.NativePlugin
import PluginHost.Backend.PythonPlugin
import PluginHost.CommandLine.Arguments
import PluginHost.CommandLine.Report
import PluginHost.CommandLine.Tasks
import PluginHost.Datum
import PluginHost.Decimal.Binary
import PluginHost.Decimal.Digits
import PluginHost.Decimal.Notation
import PluginHost.Error
import PluginHost.FileTree
import PluginHost.Instances
import PluginHost.Kind
import PluginHost.Logging.Event
import PluginHost.Logging.Filter
import PluginHost.Logging.Format
import PluginHost.Main
import PluginHost.Manager
import PluginHost.Manifest.Config
import PluginHost.Manifest.Decode
import PluginHost.Manifest.Document
import PluginHost.Manifest.File
import PluginHost.Manifest.Quotes
import PluginHost.Manifest.Reader
import PluginHost.Manifest.Tree
import PluginHost.Manifest.Word
import PluginHost.Native.CrashGuard
import PluginHost.Native.Image
import PluginHost.Native.Loader
import PluginHost.Native.Signals
import PluginHost.Path
import PluginHost.Plugin
import PluginHost.Proofs.Agreement
import PluginHost.Proofs.CommandLine.Checking
import PluginHost.Proofs.CommandLine.Rounds
import PluginHost.Proofs.Configured
import PluginHost.Proofs.Data.Absent
import PluginHost.Proofs.Data.Collapsing
import PluginHost.Proofs.Data.Order
import PluginHost.Proofs.Data.Overwriting
import PluginHost.Proofs.Data.Values
import PluginHost.Proofs.Globals
import PluginHost.Proofs.GuardedCalls
import PluginHost.Proofs.Loading
import PluginHost.Proofs.Lua.Call
import PluginHost.Proofs.Lua.Capture
import PluginHost.Proofs.Lua.Decoding
import PluginHost.Proofs.Lua.Demands
import PluginHost.Proofs.Lua.Globals
import PluginHost.Proofs.Lua.Indices
import PluginHost.Proofs.Lua.KeysApart
import PluginHost.Proofs.Lua.Layout
import PluginHost.Proofs.Lua.Lifetime
import PluginHost.Proofs.Lua.Optional
import PluginHost.Proofs.Lua.Pushing
import PluginHost.Proofs.Lua.Readable
import PluginHost.Proofs.Lua.Reading
import PluginHost.Proofs.Lua.Refusals
import PluginHost.Proofs.Lua.Rejection
import PluginHost.Proofs.Lua.Repeating
import PluginHost.Proofs.Lua.Representation
import PluginHost.Proofs.Lua.RoundTrip
import PluginHost.Proofs.Lua.Scalars
import PluginHost.Proofs.Lua.Slots
import PluginHost.Proofs.Lua.Undisturbed
import PluginHost.Proofs.Manifest.Alike
import PluginHost.Proofs.Manifest.Records
import PluginHost.Proofs.Manifest.Sections
import PluginHost.Proofs.Manifest.Trees
import PluginHost.Proofs.Manifest.Validating
import PluginHost.Proofs.Missing
import PluginHost.Proofs.Native.Finding
import PluginHost.Proofs.Native.Guarding
import PluginHost.Proofs.Native.Holdings
import PluginHost.Proofs.Native.Keeping
import PluginHost.Proofs.Native.Managing
import PluginHost.Proofs.Native.Mappings
import PluginHost.Proofs.Native.Memory
import PluginHost.Proofs.Native.Naming
import PluginHost.Proofs.Native.Openings
import PluginHost.Proofs.Native.Presence
import PluginHost.Proofs.Native.Variables
import PluginHost.Proofs.Native.Writing
import PluginHost.Proofs.Python.Computations
import PluginHost.Proofs.Python.Exceptions
import PluginHost.Proofs.Python.Globals
import PluginHost.Proofs.Python.Keys
import PluginHost.Proofs.Python.Placing
import PluginHost.Proofs.Python.Reading
import PluginHost.Proofs.Python.Rejection
import PluginHost.Proofs.Python.RoundTrip
import PluginHost.Proofs.Python.Scalars
import PluginHost.Proofs.Python.Scripts
import PluginHost.Proofs.Python.Sessions
import PluginHost.Proofs.Python.UsableKeys
import PluginHost.Proofs.Rejection
import PluginHost.Proofs.Reports
import PluginHost.Proofs.Single
import PluginHost.Samples.Libraries
import PluginHost.Samples.LuaScripts
import PluginHost.Samples.PythonScripts
import PluginHost.Samples.Workspace
import PluginHost.Script.LuaArguments
import PluginHost.Script.LuaExchange
import PluginHost.Script.LuaLayout
import PluginHost.Script.LuaLexer
import PluginHost.Script.LuaLibrary
import PluginHost.Script.LuaMachine
import PluginHost.Script.LuaMath
import PluginHost.Script.LuaNumber
import PluginHost.Script.LuaParser
import PluginHost.Script.LuaPattern
import PluginHost.Script.LuaRun
import PluginHost.Script.LuaStack
import PluginHost.Script.LuaSyntax
import PluginHost.Script.LuaTable
import PluginHost.Script.LuaText
import PluginHost.Script.LuaValue
import PluginHost.Script.PythonArguments
import PluginHost.Script.PythonClass
import PluginHost.Script.PythonConstructors
import PluginHost.Script.PythonContainerMethods
import PluginHost.Script.PythonEncoding
import PluginHost.Script.PythonExchange
import PluginHost.Script.PythonFunctions
import PluginHost.Script.PythonLexer
import PluginHost.Script.PythonLibrary
import PluginHost.Script.PythonModules
import PluginHost.Script.PythonNative
import PluginHost.Script.PythonNumber
import PluginHost.Script.PythonObject
import PluginHost.Script.PythonObjectMethods
import PluginHost.Script.PythonOperator
import PluginHost.Script.PythonParser
import PluginHost.Script.PythonPrintable
import PluginHost.Script.PythonRun
import PluginHost.Script.PythonSession
import PluginHost.Script.PythonSorting
import PluginHost.Script.PythonStart
import PluginHost.Script.PythonSyntax
import PluginHost.Script.PythonText
import PluginHost.Script.PythonTextMethods
import PluginHost.Script.PythonTraceback
import PluginHost.Script.PythonValue
import PluginHost.Single
import PluginHost.Text.Blank
import PluginHost.Text.Bytes
import PluginHost.Text.Printable
import PluginHost.Text.Quoted
import PluginHost.Text.Utf8
import PluginHost.Text.Wide
import PluginHost.World
