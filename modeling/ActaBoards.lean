import ActaBoards.Chain.ObjectId
import ActaBoards.Chain.Block
import ActaBoards.Postgres.Table
import ActaBoards.Postgres.Replay
import ActaBoards.Postgres.Schema
import ActaBoards.Postgres.Sql
import ActaBoards.PostgresContent.Handlers
import ActaBoards.PostgresContent.HandlerSql
import ActaBoards.PostgresContent.OnBlock
import ActaBoards.PostgresContent.Facts
import ActaBoards.PostgresContent.Lifecycle
import ActaBoards.PostgresContent.Keys
import ActaBoards.PostgresContent.CreateTables
import ActaBoards.PostgresContent.Plugin
import ActaBoards.PostgresContent.StoredRows
import ActaBoards.PostgresContent.PluginSql
import ActaBoards.Protocol.Room
