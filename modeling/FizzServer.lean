import FizzServer.Text
import FizzServer.Acceptor
import FizzServer.Ech
import FizzServer.Command
import FizzServer.Process
import FizzServer.Connection.World
import FizzServer.Connection.Server
import FizzServer.Connection.Calm
import FizzServer.Connection.Slots
import FizzServer.Connection.Done
import FizzServer.Connection.Http
import FizzServer.Connection.Responder
import FizzServer.Connection.Protocol
import FizzServer.Arguments
